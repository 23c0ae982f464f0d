import ServiceBinding.Proofs.Wire.Parsing
import ServiceBinding.Sample.Shapes

/-!
# Messages mark their own end

What a decoder reads at the front of some bytes it also reads when more bytes follow, and it
leaves those alone. Main statement: a value is read back from its bytes whatever follows
them, and no value at all is read from bytes that are cut short.
-/

universe u

namespace ServiceBinding.Wire

namespace Decoder

def ExtendsTo {α : Type u} (d d' : Decoder α) : Prop :=
  ∀ ⦃bs a rest⦄, d bs = .ok (a, rest) → ∀ more, d' (bs ++ more) = .ok (a, rest ++ more)

@[reducible] def Stable {α : Type u} (d : Decoder α) : Prop := d.ExtendsTo d

theorem Parses.extendsTo {α : Type u} {d d' : Decoder α} {P : α → List UInt8 → Prop}
    (h : d.Parses P) (h' : d'.Parses P) : d.ExtendsTo d' := by
  intro bs a rest hd more
  obtain ⟨front, hp, rfl⟩ := h.spelled hd
  rw [List.append_assoc]
  exact h'.reads hp (rest ++ more)

end Decoder

theorem Schema.stable_decode (f : Format) (s : Schema) : (s.decode f).Stable :=
  (s.parses_decode f).extendsTo (s.parses_decode f)

theorem Decoder.Reads.error_of_prefix {α : Type u} {d : Decoder α} {bs p : List UInt8} {a : α}
    (hr : d.Reads bs a) (hd : d.Stable) (hp : p <+: bs) (hne : p ≠ bs) : ∃ e, d p = .error e := by
  obtain ⟨cut, rfl⟩ := hp
  cases h : d p with
  | error e => exact ⟨e, rfl⟩
  | ok r =>
    -- whatever `p` holds, it would still hold with the rest of the bytes behind it
    obtain ⟨a', rest⟩ := r
    have hlong := hd h cut
    have hwhole := hr []
    rw [List.append_nil, hlong] at hwhole
    have hrest : rest ++ cut = [] := congrArg Prod.snd (Except.ok.inj hwhole)
    have hcut : cut = [] := (List.append_eq_nil_iff.1 hrest).2
    exact absurd (by rw [hcut, List.append_nil]) hne

end ServiceBinding.Wire

namespace ServiceBinding

open Wire (Schema)

/-- The bytes of a value tell where they end: more bytes behind them change nothing, and
fewer bytes are no value. -/
theorem decodeAs_self_delimiting {s : Schema} {v : s.Val} (h : s.Fits v) :
    (∀ t, decodeAs s (encodeAs s v ++ t) = .ok v) ∧
      ∀ p, p <+: encodeAs s v → p ≠ encodeAs s v → ∃ e, decodeAs s p = .error e := by
  have hr := s.reads_encode .fixed v h
  refine ⟨fun t => ?_, fun p hp hne => ?_⟩
  · rw [decodeAs, encodeAs, hr t]
  · obtain ⟨e, he⟩ := hr.error_of_prefix (s.stable_decode .fixed) hp hne
    exact ⟨⟨e⟩, by rw [decodeAs, he]⟩

theorem decodeAs_self_delimiting_tree :
    let s : Schema := Sample.treeResult.schema
    let v : s.Val := (some (.node 1 [.node (-2) [], .node 3 [.node 4 []]]), ())
    let p := (encodeAs s v).take 44
    s.Fits v ∧ decodeAs s (encodeAs s v ++ [7]) = .ok v ∧ p <+: encodeAs s v ∧
      p ≠ encodeAs s v ∧ ∃ e, decodeAs s p = .error e := by
  intro s v p
  have hl : ∀ n, n ≤ 2 → n < Wire.lengthLimit := fun n hn => Nat.lt_of_le_of_lt hn (by decide)
  have hv : s.Fits v :=
    ⟨⟨trivial, hl 2 (by decide), ⟨trivial, hl 0 (by decide), trivial⟩,
      ⟨trivial, hl 1 (by decide), ⟨trivial, hl 0 (by decide), trivial⟩, trivial⟩, trivial⟩,
      trivial⟩
  have hp : p <+: encodeAs s v := List.take_prefix 44 _
  have hne : p ≠ encodeAs s v := by decide
  obtain ⟨hok, hcut⟩ := decodeAs_self_delimiting hv
  exact ⟨hv, hok [7], hp, hne, hcut p hp hne⟩

end ServiceBinding
