import Mathlib.Data.List.Nodup
import Mathlib.Tactic.Common
import MountOwnership.Cluster.Client
import MountOwnership.Error

/-!
# Failed responses

A failed response tells a status: the one that its body spells, or, where the body spells
none, its own code and the body as a message (`Status.Tells`).  There is exactly one such
status (`Status.tells_iff`), and it alone decides how a call ends.  Reads and writes meet the
same error, and only the reason makes a difference between them: it may say that the object
of a look-up is absent (`Client.perform_refused`).
-/

namespace MountOwnership

namespace Status

variable {members : List (String × Json)} {name text : String} {j : Json} {s : Status}
  {r : Http.Response}

/-! ### How a status is spelled -/

/-- A list of members has a member, and no other one of its name. -/
def Sole (members : List (String × Json)) (name : String) (j : Json) : Prop :=
  (name, j) ∈ members ∧ (members.map Prod.fst).count name = 1

/-- A list of members has a text as its only member of a name, or has no member of that name and
the text is empty. -/
def TextOrEmpty (members : List (String × Json)) (name text : String) : Prop :=
  Sole members name (.str text) ∨ (name ∉ members.map Prod.fst ∧ text = "")

/-- A status is spelled as an object with a state and a code, or as the list of its values. -/
inductive Spelled : Json → Status → Prop
  | object {members : List (String × Json)} {state message reason : String} {code : Nat}
      (hstate : Sole members "status" (.str state)) (hcode : Sole members "code" (.int code))
      (hlt : code < 65536) (hmessage : TextOrEmpty members "message" message)
      (hreason : TextOrEmpty members "reason" reason) :
      Spelled (.obj members) ⟨code, message, reason⟩
  | list {state message reason : String} {code : Nat} (hlt : code < 65536) :
      Spelled (.arr [.str state, .str message, .str reason, .int code]) ⟨code, message, reason⟩

/-- A text is read of a JSON value that is this text. -/
lemma str?_eq_some_iff : j.str? = some text ↔ j = .str text := by
  cases j with
  | str value =>
    rw [Json.str.injEq]
    exact Option.some_inj
  | null | bool _ | int _ | decimal _ | arr _ | obj _ => exact ⟨nofun, nofun⟩

/-- The members of a name are as many as the name occurs. -/
lemma length_filter_name (members : List (String × Json)) (name : String) :
    (members.filter fun m => m.1 = name).length = (members.map Prod.fst).count name := by
  rw [List.count, List.countP_map, List.countP_eq_length_filter]
  rfl

/-- A member is found under a name if it is the only one. -/
lemma single?_eq_some_some_iff : single? name members = some (some j) ↔ Sole members name j := by
  have hcount := length_filter_name members name
  have hmem : (name, j) ∈ members ↔ (name, j) ∈ members.filter fun m => m.1 = name := by
    simp [List.mem_filter]
  unfold single? Sole
  rw [← hcount, hmem]
  cases hfound : members.filter fun m => m.1 = name with
  | nil => simp
  | cons m rest =>
    cases rest with
    | nil =>
      have hm : m ∈ members.filter fun m => m.1 = name := by simp [hfound]
      have hname : m.1 = name := by simpa using (List.mem_filter.mp hm).2
      simp [Prod.ext_iff, hname, eq_comm]
    | cons m' rest => simp

/-- Nothing is found under a name that no member has. -/
lemma single?_eq_some_none_iff :
    single? name members = some none ↔ name ∉ members.map Prod.fst := by
  have hcount := length_filter_name members name
  unfold single?
  rw [← List.count_eq_zero, ← hcount, List.length_eq_zero_iff]
  cases members.filter fun m => m.1 = name with
  | nil => simp
  | cons m rest =>
    cases rest with
    | nil => simp
    | cons m' rest => simp

/-- A text is read if it is the only member of its name, and an absent one is read as empty. -/
lemma textOrEmpty_iff : TextOrEmpty members name text ↔
    ∃ found, single? name members = some found ∧ text? found = some text := by
  constructor
  · rintro (hsole | ⟨hlacks, rfl⟩)
    · exact ⟨some (.str text), single?_eq_some_some_iff.mpr hsole, rfl⟩
    · exact ⟨none, single?_eq_some_none_iff.mpr hlacks, rfl⟩
  · rintro ⟨found, hfound, htext⟩
    cases found with
    | none => exact Or.inr ⟨single?_eq_some_none_iff.mp hfound, (Option.some.inj htext).symm⟩
    | some j =>
      obtain rfl := str?_eq_some_iff.mp htext
      exact Or.inl (single?_eq_some_some_iff.mp hfound)

/-- A code is a whole number of 16 bits. -/
lemma code?_eq_some_iff {code : Nat} : code? j = some code ↔ j = .int code ∧ code < 65536 := by
  have hnat : j.nat? = some code ↔ j = .int code := by
    cases j with
    | int n =>
      change (if 0 ≤ n then some n.toNat else none) = some code ↔ _
      rw [Json.int.injEq]
      by_cases hn : 0 ≤ n
      · rw [if_pos hn, Option.some_inj]
        omega
      · rw [if_neg hn]
        exact ⟨nofun, fun h => by omega⟩
    | null | bool _ | str _ | decimal _ | arr _ | obj _ => exact ⟨nofun, nofun⟩
  unfold code?
  rw [Option.filter_eq_some_iff, hnat, decide_eq_true_eq]

/-- What is read of a JSON value is a status that it spells. -/
lemma spelled_of_ofJson? (h : ofJson? j = some s) : Spelled j s := by
  unfold ofJson? at h
  split at h
  · simp only [bind, pure, Option.bind_eq_some_iff] at h
    obtain ⟨_, hstate, _, rfl, state, hstr, _, hcode, _, rfl, code, hint, found, hfound, message,
      hmessage, found', hfound', reason, hreason, heq⟩ := h
    obtain rfl := str?_eq_some_iff.mp hstr
    obtain ⟨rfl, hlt⟩ := code?_eq_some_iff.mp hint
    obtain rfl := Option.some.inj heq
    exact .object (single?_eq_some_some_iff.mp hstate) (single?_eq_some_some_iff.mp hcode) hlt
      (textOrEmpty_iff.mpr ⟨found, hfound, hmessage⟩)
      (textOrEmpty_iff.mpr ⟨found', hfound', hreason⟩)
  · obtain ⟨code, hint, rfl⟩ := Option.map_eq_some_iff.mp h
    obtain ⟨rfl, hlt⟩ := code?_eq_some_iff.mp hint
    exact .list hlt
  · exact nomatch h

/-- A status is read of every JSON value that spells it. -/
lemma ofJson?_of_spelled (h : Spelled j s) : ofJson? j = some s := by
  cases h with
  | object hstate hcode hlt hmessage hreason =>
    obtain ⟨found, hfound, hmessage'⟩ := textOrEmpty_iff.mp hmessage
    obtain ⟨found', hfound', hreason'⟩ := textOrEmpty_iff.mp hreason
    unfold ofJson?
    simp only [bind, pure, Option.bind_eq_some_iff]
    exact ⟨_, single?_eq_some_some_iff.mpr hstate, _, rfl, _, rfl, _,
      single?_eq_some_some_iff.mpr hcode, _, rfl, _, code?_eq_some_iff.mpr ⟨rfl, hlt⟩, found,
      hfound, _, hmessage', found', hfound', _, hreason', rfl⟩
  | list hlt => exact Option.map_eq_some_iff.mpr ⟨_, code?_eq_some_iff.mpr ⟨rfl, hlt⟩, rfl⟩

/-! ### What a failed response tells -/

/-- The body of a response spells a status. -/
def Spells (r : Http.Response) (s : Status) : Prop :=
  ∃ j, Json.read? r.body = some j ∧ Spelled j s

/-- A failed response tells the status that its body spells.  Where the body spells none, it tells
its own code and the body in quotes. -/
inductive Tells (r : Http.Response) : Status → Prop
  | spelled {s : Status} (h : Spells r s) : Tells r s
  | unreadable (h : ∀ s, ¬ Spells r s) :
      Tells r ⟨r.status, Text.quoted r.body, "Failed to parse error data"⟩

/-- The status that the body spells is read from it. -/
lemma spells_iff : Spells r s ↔ (Json.read? r.body).bind ofJson? = some s := by
  rw [Option.bind_eq_some_iff]
  exact exists_congr fun j => and_congr_right fun _ => ⟨ofJson?_of_spelled, spelled_of_ofJson?⟩

/-- A failed response tells exactly one status. -/
lemma tells_iff : Tells r s ↔ s = ofResponse r := by
  unfold ofResponse
  cases hread : (Json.read? r.body).bind ofJson? with
  | some s' =>
    have hs' : Spells r s' := spells_iff.mpr hread
    rw [Option.getD_some]
    constructor
    · rintro (hs | hnone)
      · exact Option.some.inj ((spells_iff.mp hs).symm.trans hread)
      · exact absurd hs' (hnone s')
    · rintro rfl
      exact .spelled hs'
  | none =>
    have hnone : ∀ s', ¬ Spells r s' := fun s' hs' =>
      nomatch hread.symm.trans (spells_iff.mp hs')
    rw [Option.getD_none]
    constructor
    · rintro (hs | _)
      · exact absurd hs (hnone s)
      · rfl
    · rintro rfl
      exact .unreadable hnone

/-- A missing page is no absent object: the body spells no status, so it tells no such reason. -/
example : ofResponse ⟨404, "page not found"⟩ =
    ⟨404, "\"page not found\"", "Failed to parse error data"⟩ := by decide +kernel

/-! ### The error of a status -/

/-- A status with the code 409 is a conflict. -/
lemma error_of_code_eq (h : s.code = 409) : s.error = .conflict s.message := if_pos h

/-- Any other status is an error of the server that names its code. -/
lemma error_of_code_ne (h : s.code ≠ 409) :
    s.error = .api (s.message ++ " (HTTP " ++ toString s.code ++ ")") := if_neg h

/-- The code alone tells whether a write lost a race. -/
lemma isConflict_error_iff (s : Status) : s.error.isConflict = true ↔ s.code = 409 := by
  by_cases h : s.code = 409
  · rw [error_of_code_eq h]
    exact ⟨fun _ => h, fun _ => rfl⟩
  · rw [error_of_code_ne h]
    exact ⟨nofun, fun heq => absurd heq h⟩

end Status

/-! ### What calls make of it -/

namespace Client

open Status

variable {server : Http.Request → Http.Response} {c : Call} {r : Http.Response}

/-- A call reaches the server and gets a response. -/
def Gets (server : Http.Request → Http.Response) (c : Call) (r : Http.Response) : Prop :=
  ∃ sent, request c = .ok sent ∧ server sent = r

/-- The response to a call decides its result. -/
lemma perform_of_gets (h : Gets server c r) : (perform server c).2 = result c r := by
  obtain ⟨sent, hsent, rfl⟩ := h
  unfold perform
  rw [hsent]

/-- How a look-up ends that is refused with a status: it finds nothing if the reason says that the
object is absent, and otherwise it fails. -/
structure LookupRefused {α : Type} (s : Status) (e : ClusterError)
    (found : Except ClusterError (Option α)) : Prop where
  absent_iff : found = .ok none ↔ s.reason = "NotFound"
  failed : s.reason ≠ "NotFound" → found = .error e
  no_object : ∀ a, found ≠ .ok (some a)

/-- Every look-up ends so. -/
lemma lookupRefused_found {α : Type} (hr : r.isFailure = true) (read : Json → Option α) :
    LookupRefused (ofResponse r) (ofResponse r).error (found read r) := by
  have habsent : (ofResponse r).isAbsence = true ↔ (ofResponse r).reason = "NotFound" :=
    beq_iff_eq
  unfold found
  rw [if_pos hr]
  by_cases h : (ofResponse r).reason = "NotFound"
  · rw [if_pos (habsent.mpr h)]
    exact ⟨⟨fun _ => h, fun _ => rfl⟩, fun hne => absurd h hne, fun _ => nofun⟩
  · rw [if_neg (mt habsent.mp h)]
    exact ⟨⟨nofun, fun heq => absurd heq h⟩, fun _ => rfl, fun _ => nofun⟩

/-- **Failed responses.**  A response with a code between 400 and 599 tells one status, and that
status alone decides how a call ends.  A look-up finds nothing exactly if the reason is `NotFound`,
whatever the code is.  In every other case it fails, and a replace fails in every case, with one and
the same error: a conflict exactly if the code is 409, and otherwise an error of the server that
names the code.  No such response is taken for an object, and its error is worth another try. -/
theorem perform_refused {r : Http.Response} (hlo : 400 ≤ r.status) (hhi : r.status < 600) :
    ∃ s : Status, (∀ s', Tells r s' ↔ s' = s) ∧ ∃ e : ClusterError,
      (s.code = 409 → e = .conflict s.message) ∧
      (s.code ≠ 409 → e = .api (s.message ++ " (HTTP " ++ toString s.code ++ ")")) ∧
      (e.isConflict = true ↔ s.code = 409) ∧
      (ControllerError.cluster e).isRetryable = true ∧
      ∀ server,
        (∀ k, Gets server (.readReplicaSet k) r →
          LookupRefused s e (perform server (.readReplicaSet k)).2) ∧
        (∀ k, Gets server (.readConfigMap k) r →
          LookupRefused s e (perform server (.readConfigMap k)).2) ∧
        ∀ c, Gets server (.replaceConfigMap c) r →
          (perform server (.replaceConfigMap c)).2 = .error e := by
  have hr : r.isFailure = true := by simp [Http.Response.isFailure, hlo, hhi]
  refine ⟨ofResponse r, fun _ => tells_iff, (ofResponse r).error, error_of_code_eq,
    error_of_code_ne, (ofResponse r).isConflict_error_iff, rfl,
    fun server => ⟨fun k h => ?_, fun k h => ?_, fun c h => ?_⟩⟩
  · rw [perform_of_gets h]
    exact lookupRefused_found hr ReplicaSet.ofJson?
  · rw [perform_of_gets h]
    exact lookupRefused_found hr ConfigMap.ofJson?
  · rw [perform_of_gets h]
    exact if_pos hr

end Client

/-! ### A code and a reason that disagree -/

namespace Sample

/-- A response whose body has the code of a conflict and says that the object is absent. -/
def absentConflict : Http.Response :=
  ⟨404, "\x7b\"status\":\"Failure\",\"reason\":\"NotFound\",\"code\":409\x7d"⟩

/-- A ConfigMap with a namespace and a name. -/
def placedConfigMap : ConfigMap where
  metadata := { ns := some "default", name := some "app-config" }

/-- Its key. -/
def placedKey : ObjectKey := ⟨"default", "app-config"⟩

/-- Its place on the server. -/
def placedTarget : Http.Target := ⟨"/api/v1/namespaces/default/configmaps/app-config", ""⟩

end Sample

namespace Client

open Status

/-- A request is sent if the name is not empty and the target is well-formed. -/
lemma objectRequest_of_target {method : Http.Method} {collection name ending : String}
    {target : Http.Target} (hname : name.isEmpty = false)
    (htarget : Http.Target.ofText? (collection ++ "/" ++ name ++ ending) = some target)
    (body : Option Json) :
    objectRequest method collection name ending body = .ok ⟨method, target, body⟩ := by
  unfold objectRequest
  rw [if_neg (by simp [hname]), htarget]

/-- The look-up of `app-config` is sent to the server. -/
lemma request_placedKey :
    request (.readConfigMap Sample.placedKey) = .ok ⟨.get, Sample.placedTarget, none⟩ := by
  unfold request
  exact objectRequest_of_target (by decide +kernel) (by decide +kernel) none

/-- The replace of `app-config` is sent to the server. -/
lemma request_placedConfigMap :
    request (.replaceConfigMap Sample.placedConfigMap) =
      .ok ⟨.put, Sample.placedTarget, some Sample.placedConfigMap.toJson⟩ := by
  have hkey : Sample.placedConfigMap.metadata.key = .ok Sample.placedKey := rfl
  unfold request
  simp only [hkey]
  exact objectRequest_of_target (by decide +kernel) (by decide +kernel) _

/-- The response tells the code and the reason of its body, and not its own code. -/
lemma tells_absentConflict : Tells Sample.absentConflict ⟨409, "", "NotFound"⟩ :=
  tells_iff.mpr (by decide +kernel)

/-- A look-up takes the object for absent, and a replace meets a conflict. -/
theorem perform_refused_absentConflict :
    let server := fun _ => Sample.absentConflict
    (400 ≤ Sample.absentConflict.status ∧ Sample.absentConflict.status < 600) ∧
    (Gets server (.readConfigMap Sample.placedKey) Sample.absentConflict ∧
      (perform server (.readConfigMap Sample.placedKey)).2 = .ok none) ∧
    (Gets server (.replaceConfigMap Sample.placedConfigMap) Sample.absentConflict ∧
      (perform server (.replaceConfigMap Sample.placedConfigMap)).2 = .error (.conflict "")) := by
  intro server
  have hlo : 400 ≤ Sample.absentConflict.status := by decide
  have hhi : Sample.absentConflict.status < 600 := by decide
  have hread : Gets server (.readConfigMap Sample.placedKey) Sample.absentConflict := by
    unfold Gets
    exact ⟨_, request_placedKey, rfl⟩
  have hwrite : Gets server (.replaceConfigMap Sample.placedConfigMap) Sample.absentConflict := by
    unfold Gets
    exact ⟨_, request_placedConfigMap, rfl⟩
  obtain ⟨s, htells, e, hconflict, _, _, _, hcalls⟩ := perform_refused hlo hhi
  obtain rfl := (htells _).mp tells_absentConflict
  obtain ⟨_, hlookups, hreplaces⟩ := hcalls server
  refine ⟨⟨hlo, hhi⟩, ⟨hread, ?_⟩, hwrite, ?_⟩
  · exact (hlookups _ hread).absent_iff.mpr rfl
  · rw [hreplaces _ hwrite, hconflict rfl]

end Client

end MountOwnership
