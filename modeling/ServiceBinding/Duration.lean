/-!
# Durations

A duration is a number of seconds in 64 bits and a number of nanoseconds below one second.
On the wire it is a 64-bit number of milliseconds: what is finer is dropped, what is longer
becomes the greatest number.
-/

namespace ServiceBinding

@[reducible] def nanosPerSecond : Nat := 1000000000

@[reducible] def nanosPerMilli : Nat := 1000000

structure Duration where
  seconds : UInt64
  nanos : Nat
  nanos_lt : nanos < nanosPerSecond

namespace Duration

def zero : Duration := ⟨0, 0, by decide⟩

def of (seconds nanos : Nat) : Duration where
  seconds := UInt64.ofNat (seconds + nanos / nanosPerSecond)
  nanos := nanos % nanosPerSecond
  nanos_lt := Nat.mod_lt _ (by decide)

def ofMillis (ms : UInt64) : Duration where
  seconds := ms / 1000
  nanos := ms.toNat % 1000 * nanosPerMilli
  nanos_lt := by simp only [nanosPerMilli, nanosPerSecond]; omega

def millis (d : Duration) : Nat := d.seconds.toNat * 1000 + d.nanos / nanosPerMilli

def toMillis (d : Duration) : UInt64 := UInt64.ofNat (min d.millis 0xFFFFFFFFFFFFFFFF)

def totalNanos (d : Duration) : Nat := d.seconds.toNat * nanosPerSecond + d.nanos

/-- All whole milliseconds, then the parts: `1500ms=1s+500000000ns`. -/
def text (d : Duration) : String :=
  s!"{d.millis}ms={d.seconds.toNat}s+{d.nanos}ns"

end Duration

end ServiceBinding
