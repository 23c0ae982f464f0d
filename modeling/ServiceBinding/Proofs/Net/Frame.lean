import ServiceBinding.Net.Frame
import ServiceBinding.Proofs.Wire.Size

/-!
# Reading a frame back

The length in front of a payload tells a reader where the payload ends, whatever is sent
behind it. Main statement: a message whose schema takes up a byte is read back from its frame
if its payload is within the size limit.
-/

namespace ServiceBinding.Net.Frame

open Wire (Schema)

theorem ofBigEndian_bigEndian4 {n : Nat} (h : n ≤ sizeLimit) :
    ofBigEndian (bigEndian4 n) = n := by
  simp only [sizeLimit] at h
  simp only [ofBigEndian, bigEndian4, List.foldl_cons, List.foldl_nil, UInt8.toNat_ofNat']
  omega

theorem length_bigEndian4 (n : Nat) : (bigEndian4 n).length = 4 := rfl

theorem write_eq_ok_iff {payload frame : List UInt8} :
    write payload = .ok frame ↔
      payload.length ≤ sizeLimit ∧ frame = bigEndian4 payload.length ++ payload := by
  simp only [write]
  split_ifs with h
  · simp [h, eq_comm]
  · simp [h]

theorem bigEndian4_ofBigEndian : {bs : List UInt8} → bs.length = 4 →
    bigEndian4 (ofBigEndian bs) = bs ∧ ofBigEndian bs ≤ sizeLimit
  | [a, b, c, d], _ => by
    have ha := a.toNat_lt
    have hb := b.toNat_lt
    have hc := c.toNat_lt
    have hd := d.toNat_lt
    simp only [ofBigEndian, bigEndian4, List.foldl_cons, List.foldl_nil, List.cons.injEq,
      ← UInt8.toNat_inj, UInt8.toNat_ofNat', and_true, sizeLimit]
    omega

theorem read_eq_some_iff {received payload : List UInt8} :
    read received = .ok (some payload) ↔ 5 ≤ received.length ∧ payload.length ≤ sizeLimit ∧
      ∃ more, received = bigEndian4 payload.length ++ payload ++ more := by
  constructor
  · intro h
    simp only [read] at h
    split_ifs at h with hnil hfive hwhole
    · cases h
    · cases h
      have hfour : (received.take 4).length = 4 := List.length_take_of_le (by omega)
      obtain ⟨hback, hlimit⟩ := bigEndian4_ofBigEndian hfour
      have hsize : ((received.drop 4).take (ofBigEndian (received.take 4))).length =
          ofBigEndian (received.take 4) :=
        List.length_take_of_le (by rw [List.length_drop]; omega)
      rw [hsize, hback]
      refine ⟨by omega, hlimit, (received.drop 4).drop (ofBigEndian (received.take 4)),
        ?_⟩
      rw [List.append_assoc, List.take_append_drop, List.take_append_drop]
  · rintro ⟨hfive, hl, more, rfl⟩
    have hlen : (bigEndian4 payload.length ++ payload ++ more).length =
        4 + payload.length + more.length := by
      simp only [List.length_append, length_bigEndian4]
    have hnil : bigEndian4 payload.length ++ payload ++ more ≠ [] := by
      intro hnil
      rw [hnil] at hfive
      cases hfive
    have hsize : ofBigEndian ((bigEndian4 payload.length ++ payload ++ more).take 4) =
        payload.length := ofBigEndian_bigEndian4 hl
    have hbody : (bigEndian4 payload.length ++ payload ++ more).drop 4 = payload ++ more := rfl
    rw [read, if_neg hnil, if_neg (by omega)]
    simp only [hsize, hbody, List.take_left]
    rw [if_neg (by omega)]

/-- A frame holds at least five bytes, because an empty payload is none. -/
theorem read_append {payload : List UInt8} (hpos : 0 < payload.length)
    (h : payload.length ≤ sizeLimit) (more : List UInt8) :
    read (bigEndian4 payload.length ++ payload ++ more) = .ok (some payload) := by
  refine read_eq_some_iff.2 ⟨?_, h, more, rfl⟩
  simp only [List.length_append, length_bigEndian4]
  omega

theorem read_eq_none_iff {received : List UInt8} : read received = .ok none ↔ received = [] := by
  simp only [read]
  split_ifs with hnil <;> simp [hnil]

theorem read_of_prefix {payload part : List UInt8} (h : payload.length ≤ sizeLimit)
    (hp : part <+: bigEndian4 payload.length ++ payload)
    (hne : part ≠ bigEndian4 payload.length ++ payload) (hnil : part ≠ []) :
    read part = .error .brokenPipe := by
  obtain ⟨cut, hcut⟩ := hp
  have hpos : 0 < cut.length := by
    refine List.length_pos_iff.2 fun hc => hne ?_
    rw [← hcut, hc, List.append_nil]
  have hlen : part.length + cut.length = 4 + payload.length := by
    rw [← List.length_append, hcut, List.length_append, length_bigEndian4]
  by_cases hfive : part.length < 5
  · rw [read, if_neg hnil, if_pos hfive]
  · have hcover : (part ++ cut).take 4 = part.take 4 :=
      List.take_append_of_le_length (by omega)
    have htake : part.take 4 = bigEndian4 payload.length := by
      rw [← hcover, hcut]
      rfl
    have hsize : ofBigEndian (part.take 4) = payload.length := by
      rw [htake, ofBigEndian_bigEndian4 h]
    rw [read, if_neg hnil, if_neg hfive]
    simp only [hsize]
    rw [if_pos (by omega)]

variable {s : Schema} {v : s.Val}

theorem fits_of_length (hs : s.Solid) (h : (s.encode .compact v).length ≤ sizeLimit) : s.Fits v :=
  s.fits_of_length_encode .compact hs v (Nat.lt_of_le_of_lt h (by decide))

theorem exists_encode (h : (s.encode .compact v).length ≤ sizeLimit) :
    ∃ frame, encode s v = .ok frame := ⟨_, write_eq_ok_iff.2 ⟨h, rfl⟩⟩

theorem decode_append (hs : s.Solid) (ho : s.Occupies) {frame : List UInt8}
    (h : encode s v = .ok frame) (more : List UInt8) :
    decode s (frame ++ more) = .ok (some v) := by
  obtain ⟨hl, rfl⟩ := write_eq_ok_iff.1 h
  have hread := s.reads_encode .compact v (fits_of_length hs hl) []
  rw [List.append_nil] at hread
  rw [decode, read_append (ho .compact v) hl]
  simp only [hread]

end ServiceBinding.Net.Frame
