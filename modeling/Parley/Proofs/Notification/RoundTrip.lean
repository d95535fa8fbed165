import Parley.Notification.Decode
import Parley.Proofs.Document.Members
/-!
Notifications read back from their texts.

The field that names a kind is the one of its name among the others, wherever they come from, so
that what is left when it is taken out are the fields of that kind.
-/

namespace Parley

open Document

namespace Json

mutual

theorem isWellFormed_of_isVerbal : (value : Json) → value.isVerbal = true →
    value.isWellFormed = true
  | array items, verbal => itemsAreWellFormed_of_verbal items verbal
  | object members, verbal => membersAreWellFormed_of_verbal members verbal
  | number _, verbal | illFormed, verbal => absurd verbal Bool.false_ne_true
  | null, _ | bool _, _ | string _, _ => rfl

theorem itemsAreWellFormed_of_verbal : (items : List Json) → itemsAreVerbal items = true →
    itemsAreWellFormed items = true
  | [], _ => rfl
  | item :: rest, verbal => by
    obtain ⟨first, later⟩ := Bool.and_eq_true_iff.mp verbal
    rw [itemsAreWellFormed, isWellFormed_of_isVerbal item first,
      itemsAreWellFormed_of_verbal rest later, Bool.and_self]

theorem membersAreWellFormed_of_verbal : (members : List (String × Json)) →
    membersAreVerbal members = true → membersAreWellFormed members = true
  | [], _ => rfl
  | (_, value) :: rest, verbal => by
    obtain ⟨first, later⟩ := Bool.and_eq_true_iff.mp verbal
    rw [membersAreWellFormed, isWellFormed_of_isVerbal value first,
      membersAreWellFormed_of_verbal rest later, Bool.and_self]

end

theorem depth_array_le_iff {items : List Json} {bound : Nat} :
    (array items).depth ≤ bound + 1 ↔ ∀ item ∈ items, item.depth ≤ bound := by
  rw [depth, Nat.add_le_add_iff_right]
  induction items with
  | nil => simp [depthOfItems]
  | cons item rest ih => rw [depthOfItems, Nat.max_le, ih, List.forall_mem_cons]

theorem depth_object_le_iff {members : List (String × Json)} (bound : Nat) :
    (object members).depth ≤ bound + 1 ↔ ∀ member ∈ members, member.2.depth ≤ bound := by
  rw [depth, Nat.add_le_add_iff_right]
  induction members with
  | nil => simp [depthOfMembers]
  | cons member rest ih => rw [depthOfMembers, Nat.max_le, ih, List.forall_mem_cons]

@[simp]
theorem depth_string (text : String) : (string text).depth = 0 := rfl

@[simp]
theorem depth_bool (value : Bool) : (bool value).depth = 0 := rfl

theorem parseStrict_print {value : Json} (verbal : value.isVerbal = true)
    (shallow : value.depth ≤ depthLimit) : parseStrict value.print = some value := by
  rw [parseStrict, parse_print verbal]
  simp [isWellFormed_of_isVerbal value verbal, shallow]

end Json

namespace Document

theorem tagged?_object {tag : String} (kind : Json) {members : List (String × Json)}
    (others : ∀ member ∈ members, member.1 ≠ tag) :
    tagged? tag (ofJson (.object ((tag, kind) :: members))) =
      some (ofJson kind, ofJson (.object members)) := by
  have none : (ofMembers members).filter (·.1 = some tag) = [] := by
    rw [ofMembers_eq_map, List.filter_eq_nil_iff]
    intro entry found
    obtain ⟨member, inside, rfl⟩ := List.mem_map.mp found
    simpa using others member inside
  have all : (ofMembers members).filter (·.1 ≠ some tag) = ofMembers members := by
    rw [List.filter_eq_self, ofMembers_eq_map]
    intro entry found
    obtain ⟨member, inside, rfl⟩ := List.mem_map.mp found
    simpa using others member inside
  simp only [ofJson, ofMembers, tagged?]
  rw [List.filter_cons_of_pos (by simp), List.filter_cons_of_neg (by simp), none, all]

end Document

section Parts

theorem ProofValue.ofDocument?_toJson (value : ProofValue) :
    ProofValue.ofDocument? (ofJson value.toJson) = some value := by
  obtain ⟨name, content, credDefId⟩ := value
  cases credDefId <;> rfl

theorem ProofValue.attributes?_object (values : List ProofValue) :
    ProofValue.attributes? (ofJson (.object
      [("attributes", .array (values.map ProofValue.toJson))])) = some values := by
  have read := listOf_array ProofValue.ofDocument?_toJson values
  unfold ProofValue.attributes?
  rw [fields?_object]
  simp [required, read]

theorem StatusPayload.ofDocument?_toJson (payload : StatusPayload) :
    StatusPayload.ofDocument? (ofJson payload.toJson) = some payload := by
  cases payload with
  | proof values =>
    have read := ProofValue.attributes?_object values
    show (ProofValue.attributes? (ofJson (.object
      [("attributes", .array (values.map ProofValue.toJson))]))).map StatusPayload.proof = _
    rw [read, Option.map_some]
  | _ => rfl

@[simp]
theorem choice?_protocol (protocol : Protocol) :
    choice? Protocol.ofName? (ofJson (.string protocol.name)) = some protocol :=
  Protocol.ofName?_name protocol

@[simp]
theorem choice?_progress (progress : Progress) :
    choice? Progress.ofName? (ofJson (.string progress.name)) = some progress := by
  cases progress <;> rfl

end Parts

namespace Notification

theorem status_ofDocument? (change : Status) :
    Status.ofDocument? (ofJson (.object (status change).members)) = some change := by
  have payload := StatusPayload.ofDocument?_toJson change.payload
  unfold Status.ofDocument? members
  rw [fields?_object]
  simp [required, defaulted, payload]

theorem question_ofDocument? (asked : Question) :
    Question.ofDocument? (ofJson (.object (question asked).members)) = some asked := by
  have read := ProofValue.attributes?_object asked.values
  show (ProofValue.attributes? (ofJson (.object
    [("attributes", .array (asked.values.map ProofValue.toJson))]))).bind (fun values =>
      some (Question.mk asked.id asked.connection values)) = _
  rw [read, Option.bind_some]

theorem hook_ofDocument? (data : HookData) :
    HookData.ofDocument? (ofJson (.object (hook data).members)) = some data := by
  unfold HookData.ofDocument? members
  rw [fields?_object]
  simp [required, defaulted]

theorem ofDocument?_toJson (notification : Notification) :
    ofDocument? (ofJson notification.toJson) = some notification := by
  have others : ∀ member ∈ notification.members, member.1 ≠ "type" := by
    cases notification <;> simp [members]
  have tagged := tagged?_object (.string notification.kind) others
  unfold ofDocument? toJson
  rw [tagged]
  cases notification with
  | status change => exact congrArg (Option.map status) (status_ofDocument? change)
  | question asked => exact congrArg (Option.map question) (question_ofDocument? asked)
  | hook data => exact congrArg (Option.map hook) (hook_ofDocument? data)
  | backend message => rfl
  | keepAlive => rfl

section Texts

theorem isVerbal_proofValues (values : List ProofValue) :
    (Json.array (values.map ProofValue.toJson)).isVerbal = true := by
  simp only [Json.isVerbal_array, List.all_map, List.all_eq_true]
  intro value _
  obtain ⟨name, content, credDefId⟩ := value
  cases credDefId <;> rfl

theorem isVerbal_payload (payload : StatusPayload) : payload.toJson.isVerbal = true := by
  cases payload with
  | proof values => simp [StatusPayload.toJson, isVerbal_proofValues values]
  | _ => rfl

theorem isVerbal_toJson (notification : Notification) : notification.toJson.isVerbal = true := by
  have values := isVerbal_proofValues
  cases notification <;> simp [toJson, members, isVerbal_payload, values]

theorem depth_proofValues (values : List ProofValue) :
    (Json.array (values.map ProofValue.toJson)).depth ≤ 2 := by
  apply Json.depth_array_le_iff.mpr
  intro item member
  obtain ⟨⟨name, content, credDefId⟩, _, rfl⟩ := List.mem_map.mp member
  cases credDefId <;> simp [ProofValue.toJson, Json.depth_object_le_iff 0]

theorem depth_payload (payload : StatusPayload) : payload.toJson.depth ≤ 3 := by
  have values := depth_proofValues
  cases payload <;>
    simp [StatusPayload.toJson, Json.depth_object_le_iff 2, values]

/-- A notification is nested four deep at most: a proof has its values in a list of objects. -/
theorem depth_toJson (notification : Notification) : notification.toJson.depth ≤ 4 := by
  apply (Json.depth_object_le_iff _).mpr
  rw [List.forall_mem_cons]
  refine ⟨Nat.zero_le 3, ?_⟩
  have values := fun values => Nat.le_succ_of_le (depth_proofValues values)
  have data (map : TextMap String) : (Json.ofTextMap map).depth ≤ 3 := by
    apply (Json.depth_object_le_iff _).mpr
    intro member found
    obtain ⟨entry, _, rfl⟩ := List.mem_map.mp found
    exact Nat.zero_le 2
  cases notification <;> simp [members, depth_payload, values, data]

theorem parse?_print (notification : Notification) :
    parse? notification.toJson.print = some notification := by
  have shallow : notification.toJson.depth ≤ Json.depthLimit :=
    Nat.le_trans (depth_toJson notification) (by decide)
  rw [parse?, Json.parseStrict_print (isVerbal_toJson notification) shallow, Option.bind_some,
    ofDocument?_toJson]

end Texts

def rewritten? (text : String) : Option String :=
  (parse? text).map fun notification => notification.toJson.print

/-- A notification is what is read from its text, so that nothing changes any more in a text that
was written for one that was read. -/
theorem text_reads_back :
    (∀ notification, parse? notification.toJson.print = some notification) ∧
      ∀ text, (rewritten? text).bind rewritten? = rewritten? text := by
  refine ⟨parse?_print, fun text => ?_⟩
  cases read : parse? text with
  | none => simp [rewritten?, read]
  | some notification => simp [rewritten?, read, parse?_print]

end Notification
end Parley
