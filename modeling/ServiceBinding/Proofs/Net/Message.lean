import ServiceBinding.Net.Message
import ServiceBinding.Proofs.Net.Frame

/-!
# Messages survive the connection

Main statement: a request or a reply whose payload is within the size limit has a frame, and
is read back from it whatever is sent behind it.
-/

namespace ServiceBinding

open Wire (Schema)

theorem InboundCall.solid_schema : schema.Solid :=
  ⟨trivial, Schema.solid_bytes, Schema.solid_bytes, ⟨trivial, trivial, trivial⟩, trivial⟩

theorem WireResponse.solid_schema : schema.Solid :=
  ⟨⟨⟨trivial, trivial, trivial⟩, by decide⟩, trivial, Schema.solid_bytes, trivial⟩

namespace Net

/-- A schema for messages: each of them is read back from its value, and none is without a
byte. -/
structure Frame.Messages {μ : Type} (s : Schema) (toVal : μ → s.Val) (ofVal : s.Val → μ) :
    Prop where
  solid : s.Solid
  occupies : s.Occupies
  ofVal_toVal : ∀ m, ofVal (toVal m) = m

namespace Frame.Messages

variable {μ : Type} {s : Schema} {toVal : μ → s.Val} {ofVal : s.Val → μ} {m n : μ}
  {frame : List UInt8}

theorem receive_append (hm : Messages s toVal ofVal) (h : encode s (toVal m) = .ok frame)
    (more : List UInt8) : (decode s (frame ++ more)).map (·.map ofVal) = .ok (some m) := by
  have hd := decode_append hm.solid hm.occupies h more
  simp [hd, Except.map, hm.ofVal_toVal]

theorem receive_encode (hm : Messages s toVal ofVal) (h : encode s (toVal m) = .ok frame) :
    (decode s frame).map (·.map ofVal) = .ok (some m) := by
  have hback := hm.receive_append h []
  rwa [List.append_nil] at hback

theorem eq_of_encode_eq (hm : Messages s toVal ofVal) (h : encode s (toVal m) = .ok frame)
    (hn : encode s (toVal n) = .ok frame) : m = n := by
  have hback := hm.receive_encode h
  rw [hm.receive_encode hn] at hback
  exact (Option.some.inj (Except.ok.inj hback)).symm

end Frame.Messages

namespace RequestMessage

theorem messages : Frame.Messages schema toVal ofVal where
  solid := ⟨⟨trivial, InboundCall.solid_schema, trivial⟩, by decide⟩
  occupies := Schema.occupies_choice _ _
  ofVal_toVal := ofVal_toVal

def payload (m : RequestMessage) : List UInt8 := schema.encode .compact m.toVal

variable {m : RequestMessage}

theorem exists_frame (h : m.payload.length ≤ Frame.sizeLimit) : ∃ frame, m.frame = .ok frame :=
  Frame.exists_encode h

theorem receive_frame {frame : List UInt8} (h : m.frame = .ok frame) :
    receive frame = .ok (some m) := messages.receive_encode h

theorem fits_toVal (h : m.payload.length ≤ Frame.sizeLimit) : schema.Fits m.toVal :=
  Frame.fits_of_length messages.solid h

end RequestMessage

namespace ReplyMessage

theorem messages : Frame.Messages schema toVal ofVal where
  solid := ⟨⟨trivial, WireResponse.solid_schema, trivial, trivial⟩, by decide⟩
  occupies := Schema.occupies_choice _ _
  ofVal_toVal := ofVal_toVal

def payload (m : ReplyMessage) : List UInt8 := schema.encode .compact m.toVal

variable {m : ReplyMessage}

theorem exists_frame (h : m.payload.length ≤ Frame.sizeLimit) : ∃ frame, m.frame = .ok frame :=
  Frame.exists_encode h

theorem receive_frame {frame : List UInt8} (h : m.frame = .ok frame) :
    receive frame = .ok (some m) := messages.receive_encode h

end ReplyMessage

end Net

end ServiceBinding
