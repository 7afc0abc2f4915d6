import WartungsRemote.Audit.Log
import WartungsRemote.Json.Scanner

/-!
# What the hash of an entry determines

The fields of an entry go into its hash one after the other, with nothing between them. From the
left, the timestamp ends with its `Z`, and no actor type is the beginning of another one. From the
right, the metadata is an object or `null` (`Json.suffixFree_objectText`); a request id is there if
the last twelve characters are hexadecimal digits, which an address or a result never leaves room
for; and the address is what follows the last character of the result that occurs in no address.

What is left in the middle are **the four ids and the event type**. They are not told apart: an id
has no mark that says which one it is, and an event type may be any text
(`ChainableFields.text_eq_iff`).
-/

namespace WartungsRemote.Audit

open List

/-! ### Reading from the left -/

theorem ActorType.string_append_inj {a a' : ActorType} {x x' : Text}
    (h : a.string ++ x = a'.string ++ x') : a = a' ∧ x = x' := by
  cases a <;> cases a' <;> simp [ActorType.string] at h ⊢ <;> exact h

/-! ### Reading from the right -/

namespace Result

/-- The last character of a result that occurs in no address. -/
def mark : Result → Char
  | success => 's'
  | failure => 'r'
  | denied => 'i'

/-- What stands before it. -/
def before : Result → Text
  | success => ['s', 'u', 'c', 'c', 'e', 's']
  | failure => ['f', 'a', 'i', 'l', 'u']
  | denied => ['d', 'e', 'n']

/-- What stands after it. -/
def after : Result → Text
  | success => []
  | failure => ['e']
  | denied => ['e', 'd']

theorem string_eq (r : Result) : r.string = r.before ++ r.mark :: r.after := by
  cases r <;> rfl

theorem not_isChar_mark (r : Result) : ¬ Inet.IsChar r.mark := by
  cases r <;> decide

theorem isChar_after (r : Result) : ∀ c ∈ r.after, Inet.IsChar c :=
  Text.forall_mem_of_all (by cases r <;> decide)

theorem mark_injective : Function.Injective mark := by
  intro r r' h
  cases r <;> cases r' <;> first | rfl | exact absurd h (by decide)

end Result

theorem isChar_ipText (ip : Option Inet) : ∀ c ∈ ipText ip, Inet.IsChar c := by
  cases ip with
  | none => simp [ipText]
  | some ip => exact ip.isChar_host

theorem result_ip_inj {x x' : Text} {r r' : Result} {ip ip' : Option Inet}
    (h : x ++ (r.string ++ ipText ip) = x' ++ (r'.string ++ ipText ip')) :
    x = x' ∧ r = r' ∧ ipText ip = ipText ip' := by
  have hsplit : ∀ (x : Text) (r : Result) (ip : Option Inet),
      x ++ (r.string ++ ipText ip) = (x ++ r.before) ++ r.mark :: (r.after ++ ipText ip) := by
    intro x r ip
    simp [r.string_eq]
  have hchars : ∀ (r : Result) (ip : Option Inet), ∀ c ∈ r.after ++ ipText ip, Inet.IsChar c :=
    fun r ip c hc ↦ (mem_append.1 hc).elim (r.isChar_after c) (isChar_ipText ip c)
  rw [hsplit, hsplit] at h
  obtain ⟨hbef, hmark, haft⟩ := Text.append_cons_inj_right (hchars r ip) (hchars r' ip')
    r.not_isChar_mark r'.not_isChar_mark h
  obtain rfl := Result.mark_injective hmark
  exact ⟨append_cancel_right hbef, rfl, append_cancel_left haft⟩

theorem exists_not_hex (x : Text) (r : Result) (ip : Option Inet) :
    ∃ y z w, x ++ (r.string ++ ipText ip) = y ++ z :: w ∧ isHexChar z = false ∧ w.length ≤ 4 := by
  cases ip with
  | none =>
    refine ⟨x ++ r.before, r.mark, r.after, by simp [ipText, r.string_eq], ?_, ?_⟩
    · cases r <;> decide
    · cases r <;> decide
  | some ip =>
    obtain ⟨y, z, w, hhost, hz, hw⟩ := ip.tail_host
    refine ⟨x ++ (r.string ++ y), z, w, by simp [ipText, hhost], ?_, hw⟩
    have hall : ∀ z ∈ ['.', ':'], isHexChar z = false := Text.forall_mem_of_all (by decide)
    exact hall z hz

/-- No request id fits at the end of an entry without one. -/
theorem request_ne_none (x x' : Text) (r : Result) (ip : Option Inet) (q : UUID) :
    x' ++ uuidString q ≠ x ++ (r.string ++ ipText ip) := by
  intro h
  obtain ⟨y, z, w, hend, hz, hw⟩ := exists_not_hex x r ip
  obtain ⟨p, hp⟩ := uuidString_eq_append q
  rw [hend, hp, ← append_assoc] at h
  have hmem : z ∈ hexFixed 12 q.toNat := Text.mem_of_append_cons_eq h (by simp; omega)
  rw [isHexChar_of_mem_hexFixed z hmem] at hz
  cases hz

/-- The result, the address and the request id can be read from the right. -/
theorem result_ip_request_inj {x x' : Text} {r r' : Result} {ip ip' : Option Inet}
    {q q' : Option UUID} (h : x ++ (r.string ++ (ipText ip ++ writeUUIDPtr q)) =
      x' ++ (r'.string ++ (ipText ip' ++ writeUUIDPtr q'))) :
    x = x' ∧ r = r' ∧ ipText ip = ipText ip' ∧ q = q' := by
  rw [← append_assoc r.string, ← append_assoc r'.string, ← append_assoc x, ← append_assoc x'] at h
  have hboth : x ++ (r.string ++ ipText ip) = x' ++ (r'.string ++ ipText ip') ∧ q = q' := by
    cases q with
    | none =>
      cases q' with
      | none => exact ⟨by simpa [writeUUIDPtr] using h, rfl⟩
      | some q' =>
        refine absurd ?_ (request_ne_none x (x' ++ (r'.string ++ ipText ip')) r ip q')
        simpa [writeUUIDPtr] using h.symm
    | some q =>
      cases q' with
      | none =>
        refine absurd ?_ (request_ne_none x' (x ++ (r.string ++ ipText ip)) r' ip' q)
        simpa [writeUUIDPtr] using h
      | some =>
        obtain ⟨hrest, hid⟩ := append_inj' h (by simp [writeUUIDPtr])
        exact ⟨hrest, congrArg some (uuidString_injective hid)⟩
  obtain ⟨hrest, hq⟩ := hboth
  obtain ⟨hx, hr, hip⟩ := result_ip_inj hrest
  exact ⟨hx, hr, hip, hq⟩

/-! ### The fields -/

/-- The two entries agree in what can be read back from their hashed texts. -/
structure ChainableFields.Agree (f f' : ChainableFields) : Prop where
  occurredAt : f.occurredAt = f'.occurredAt
  actorType : f.actorType = f'.actorType
  /-- The four ids and the event type, written one after the other. -/
  middle : idText f.actorID f.sessionID f.deviceID f.customerID ++ f.eventType =
    idText f'.actorID f'.sessionID f'.deviceID f'.customerID ++ f'.eventType
  result : f.result = f'.result
  sourceIP : f.sourceIP = f'.sourceIP
  requestID : f.requestID = f'.requestID
  metadataJSON : f.metadataJSON = f'.metadataJSON

namespace ChainableFields

variable {f f' : ChainableFields}

theorem Agree.text_eq (h : f.Agree f') : f.text = f'.text := by
  rw [text, text, h.occurredAt, h.actorType, h.middle, h.result, h.sourceIP, h.requestID,
    h.metadataJSON]

/-- For the fields of stored rows, the text determines everything else. -/
theorem text_eq_iff {ip ip' : Option Inet} (hip : f.sourceIP = ipText ip)
    (hip' : f'.sourceIP = ipText ip') (hmeta : f.metadataJSON ∈ Json.objectText)
    (hmeta' : f'.metadataJSON ∈ Json.objectText) : f.text = f'.text ↔ f.Agree f' := by
  refine ⟨fun h ↦ ?_, Agree.text_eq⟩
  obtain ⟨htime, h⟩ := Timestamp.rfc3339Nano_append_inj h
  obtain ⟨hactor, h⟩ := ActorType.string_append_inj h
  have hassoc : ∀ f : ChainableFields,
      (idText f.actorID f.sessionID f.deviceID f.customerID ++ f.eventType) ++
        (f.result.string ++ (f.sourceIP ++ (writeUUIDPtr f.requestID ++ f.metadataJSON))) =
      ((idText f.actorID f.sessionID f.deviceID f.customerID ++ f.eventType) ++
        (f.result.string ++ (f.sourceIP ++ writeUUIDPtr f.requestID))) ++ f.metadataJSON := by
    intro f
    simp only [append_assoc]
  rw [hassoc, hassoc] at h
  obtain ⟨h, hjson⟩ := Json.suffixFree_objectText.append_inj hmeta hmeta' h
  rw [hip, hip'] at h
  obtain ⟨hmiddle, hres, haddr, hreq⟩ := result_ip_request_inj h
  exact ⟨htime, hactor, hmiddle, hres, by rw [hip, hip', haddr], hreq, hjson⟩

end ChainableFields

end WartungsRemote.Audit
