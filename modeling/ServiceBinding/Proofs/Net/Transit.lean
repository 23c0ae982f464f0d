import ServiceBinding.Proofs.Net.Message

/-!
# Messages in transit

What becomes of a message between the two ends of a connection. Main statement: a reader has
exactly the message that was framed once the whole frame has arrived, has none as long as
nothing has, and gets an error where the input ends in between.
-/

namespace ServiceBinding.Net

open Wire (Schema)

structure Frame.Carries {μ : Type} (receive : List UInt8 → Except FrameError (Option μ))
    (frame : List UInt8) (m : μ) : Prop where
  whole : ∀ more, receive (frame ++ more) = .ok (some m)
  cut : ∀ part, part <+: frame → part ≠ frame → part ≠ [] → receive part = .error .brokenPipe

namespace Frame.Messages

variable {μ : Type} {s : Schema} {toVal : μ → s.Val} {ofVal : s.Val → μ}

theorem carries (hm : Messages s toVal ofVal) {m : μ}
    (h : (s.encode .compact (toVal m)).length ≤ sizeLimit) :
    Carries (fun bs => (decode s bs).map (·.map ofVal))
      (bigEndian4 (s.encode .compact (toVal m)).length ++ s.encode .compact (toVal m)) m where
  whole := hm.receive_append (write_eq_ok_iff.2 ⟨h, rfl⟩)
  cut part hp hne hnil := by
    simp only [decode, read_of_prefix h hp hne hnil]
    rfl

theorem exists_carries (hm : Messages s toVal ofVal) (m : μ)
    (h : (s.encode .compact (toVal m)).length < 0x100000000) :
    ∃ frame, encode s (toVal m) = .ok frame ∧
      frame = bigEndian4 (s.encode .compact (toVal m)).length ++ s.encode .compact (toVal m) ∧
      Carries (fun bs => (decode s bs).map (·.map ofVal)) frame m := by
  have hl : (s.encode .compact (toVal m)).length ≤ sizeLimit := Nat.le_of_lt_succ h
  exact ⟨_, write_eq_ok_iff.2 ⟨hl, rfl⟩, rfl, hm.carries hl⟩

end Frame.Messages

/-- Every message whose payload is shorter than 2^32 bytes survives the connection in the
frame that is written for it. -/
theorem frames_survive :
    (∀ m : RequestMessage, m.payload.length < 0x100000000 →
      ∃ frame, m.frame = .ok frame ∧
        frame = Frame.bigEndian4 m.payload.length ++ m.payload ∧
        Frame.Carries RequestMessage.receive frame m) ∧
    (∀ m : ReplyMessage, m.payload.length < 0x100000000 →
      ∃ frame, m.frame = .ok frame ∧
        frame = Frame.bigEndian4 m.payload.length ++ m.payload ∧
        Frame.Carries ReplyMessage.receive frame m) ∧
    RequestMessage.receive [] = .ok none ∧ ReplyMessage.receive [] = .ok none :=
  ⟨RequestMessage.messages.exists_carries, ReplyMessage.messages.exists_carries, rfl, rfl⟩

theorem frames_survive_patient_call :
    let m : RequestMessage := .call ⟨"files::lookup", [0], [1, 2],
      ⟨SortedMap.empty.insert "trace" "ü", 0xFFFFFFFFFFFFFFFF⟩⟩
    let frame := Frame.bigEndian4 m.payload.length ++ m.payload
    m.payload.length < 0x100000000 ∧ frame.take 3 <+: frame ∧ frame.take 3 ≠ frame ∧
      frame.take 40 <+: frame ∧ frame.take 40 ≠ frame ∧
      m.frame = .ok frame ∧ RequestMessage.receive (frame ++ [7]) = .ok (some m) ∧
      RequestMessage.receive (frame.take 3) = .error .brokenPipe ∧
      RequestMessage.receive (frame.take 40) = .error .brokenPipe := by
  intro m frame
  have hl : m.payload.length < 0x100000000 := by decide +kernel
  have h3 : frame.take 3 ≠ frame := by decide +kernel
  have h40 : frame.take 40 ≠ frame := by decide +kernel
  obtain ⟨written, hm, rfl, hc⟩ := frames_survive.1 m hl
  exact ⟨hl, List.take_prefix 3 _, h3, List.take_prefix 40 _, h40, hm, hc.whole [7],
    hc.cut _ (List.take_prefix 3 _) h3 (by decide +kernel),
    hc.cut _ (List.take_prefix 40 _) h40 (by decide +kernel)⟩

end ServiceBinding.Net
