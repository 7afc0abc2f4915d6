import Mathlib.Data.Set.Function
import WartungsRemote.Codec.Uuid
import WartungsRemote.Device.Registry

/-!
# Stream frames

The binary messages of the control channel, `internal/protocol/stream.go`: a version, the kind of
the stream, its id in 16 bytes, and the payload. Anything that is shorter than that or has another
version is not a frame.
-/

namespace WartungsRemote.Protocol

open List

/-- What a frame says. -/
structure StreamFrame where
  kind : UInt8
  streamID : UUID
  payload : List UInt8
  deriving DecidableEq

def streamFrameHeaderLen : ℕ := 18

def streamFrameVersion : UInt8 := 1

def encodeStreamFrame (f : StreamFrame) : List UInt8 :=
  streamFrameVersion :: f.kind :: (Uuid.toBytes f.streamID ++ f.payload)

def decodeStreamFrame (frame : List UInt8) : Option StreamFrame :=
  if frame.length < streamFrameHeaderLen then none
  else
    match frame with
    | version :: kind :: rest =>
      if version ≠ streamFrameVersion then none
      else some { kind, streamID := Uuid.fromBytes (rest.take 16), payload := rest.drop 16 }
    | _ => none

theorem decodeStreamFrame_encodeStreamFrame (f : StreamFrame) :
    decodeStreamFrame (encodeStreamFrame f) = some f := by
  have hbytes : (Uuid.toBytes f.streamID).length = 16 := Uuid.length_bytes 16 _
  have hlen : ¬ (encodeStreamFrame f).length < streamFrameHeaderLen := by
    simp only [encodeStreamFrame, length_cons, length_append, hbytes, streamFrameHeaderLen]
    omega
  unfold decodeStreamFrame
  rw [if_neg hlen]
  show (if streamFrameVersion ≠ streamFrameVersion then none
    else some (⟨f.kind, Uuid.fromBytes ((Uuid.toBytes f.streamID ++ f.payload).take 16),
      (Uuid.toBytes f.streamID ++ f.payload).drop 16⟩ : StreamFrame)) = some f
  rw [if_neg (not_not.2 rfl), take_left' hbytes, drop_left' hbytes, Uuid.fromBytes_toBytes]

variable {frame : List UInt8} {f : StreamFrame}

theorem decodeStreamFrame_eq_some_iff :
    decodeStreamFrame frame = some f ↔ 18 ≤ frame.length ∧ encodeStreamFrame f = frame := by
  refine ⟨fun h ↦ ?_, fun ⟨_, h⟩ ↦ h ▸ decodeStreamFrame_encodeStreamFrame f⟩
  unfold decodeStreamFrame at h
  split_ifs at h with hshort
  have hlong := Nat.not_lt.1 hshort
  refine ⟨hlong, ?_⟩
  split at h
  next version kind rest =>
    split_ifs at h with hvers
    cases h
    have hid : (rest.take 16).length = 16 :=
      length_take_of_le (Nat.le_of_add_le_add_right (b := 2) hlong)
    rw [encodeStreamFrame, Uuid.toBytes_fromBytes hid, take_append_drop, not_not.1 hvers]
  · cases h

theorem isSome_decodeStreamFrame_iff :
    (decodeStreamFrame frame).isSome ↔ 18 ≤ frame.length ∧ frame.head? = some 1 := by
  constructor
  · intro h
    obtain ⟨f, hf⟩ := Option.isSome_iff_exists.1 h
    obtain ⟨hlong, rfl⟩ := decodeStreamFrame_eq_some_iff.1 hf
    exact ⟨hlong, rfl⟩
  · rintro ⟨hlong, hhead⟩
    match frame with
    | [] | [_] => simp at hlong
    | version :: _ :: _ =>
      obtain rfl : version = streamFrameVersion := Option.some.inj hhead
      unfold decodeStreamFrame
      split
      next hshort => exact absurd hlong (Nat.not_le.2 hshort)
      · rfl

/-- **The wire format.** -/
theorem streamFrame_codec : (∀ f, decodeStreamFrame (encodeStreamFrame f) = some f) ∧
    (∀ frame, (decodeStreamFrame frame).isSome ↔ 18 ≤ frame.length ∧ frame.head? = some 1) ∧
    (∀ frame f, decodeStreamFrame frame = some f → encodeStreamFrame f = frame) ∧
    Set.BijOn encodeStreamFrame Set.univ { frame | (decodeStreamFrame frame).isSome } := by
  have hback : ∀ frame f, decodeStreamFrame frame = some f → encodeStreamFrame f = frame :=
    fun _ _ h ↦ (decodeStreamFrame_eq_some_iff.1 h).2
  refine ⟨decodeStreamFrame_encodeStreamFrame, fun _ ↦ isSome_decodeStreamFrame_iff, hback,
    fun f _ ↦ ?_, fun f _ g _ hfg ↦ ?_, fun frame hfrm ↦ ?_⟩
  · exact Option.isSome_of_eq_some (decodeStreamFrame_encodeStreamFrame f)
  · have h := decodeStreamFrame_encodeStreamFrame g
    rw [← hfg, decodeStreamFrame_encodeStreamFrame] at h
    exact Option.some.inj h
  · obtain ⟨f, hf⟩ := Option.isSome_iff_exists.1 hfrm
    exact ⟨f, trivial, hback frame f hf⟩

end WartungsRemote.Protocol
