import ImageFreshness.Proofs.Lists
import ImageFreshness.Workload.Document

/-!
# Lists of pods

A document is tried as a list of pods first, and as a single pod if that fails.  All parts of a pod
may be missing, and members that no pod has do not count, so a list is a pod too unless it says
something of its own under a name that pods use.  A list of which every element is a pod is read as
these pods.  A list of which one is not, is read as one pod, and none of its elements counts: this
is what `Pod.parseAll_keeps_items_iff` says, and when it happens.
-/

namespace ImageFreshness

open Json

namespace Json

/-! ### Records -/

section Record

variable {σ : Type} {fields : List (RecordField σ)}

/-- Members with other names than those of the fields do not count. -/
theorem fillByName_of_unknown {seen : List String} {record : σ} {members : List (String × Json)}
    (hunknown : ∀ field ∈ fields, ∀ m ∈ members, m.1 ≠ field.name) :
    fillByName fields seen record members = some record := by
  induction members with
  | nil => rfl
  | cons m rest ih =>
    obtain ⟨name, value⟩ := m
    have hnone : fields.find? (·.name = name) = none := by
      rw [List.find?_eq_none]
      intro field hfield hname
      exact hunknown field hfield (name, value) List.mem_cons_self (of_decide_eq_true hname).symm
    have hrest := ih fun field hfield m hm => hunknown field hfield m (List.mem_cons_of_mem _ hm)
    simp only [fillByName, hnone, hrest]

/-- What is kept by every field that is given, is kept by all members. -/
theorem fillByName_induction {P : σ → Prop} {members : List (String × Json)}
    (hread : ∀ field ∈ fields, (∃ m ∈ members, m.1 = field.name) → ∀ record value filled,
      field.read record value = some filled → P record → P filled)
    {seen : List String} {record filled : σ} (hkept : P record)
    (hfill : fillByName fields seen record members = some filled) : P filled := by
  induction members generalizing seen record with
  | nil =>
    cases hfill
    exact hkept
  | cons m rest ih =>
    obtain ⟨name, value⟩ := m
    have hrest := fun field hfield (h : ∃ m ∈ rest, m.1 = field.name) =>
      hread field hfield (h.imp fun m hm => ⟨List.mem_cons_of_mem _ hm.1, hm.2⟩)
    simp only [fillByName] at hfill
    cases hfield : fields.find? (·.name = name) with
    | none =>
      rw [hfield] at hfill
      exact ih hrest hkept hfill
    | some field =>
      rw [hfield] at hfill
      have hmem : field ∈ fields := List.mem_of_find?_eq_some hfield
      have hname : field.name = name := by simpa using List.find?_some hfield
      by_cases hseen : name ∈ seen
      · simp [hseen] at hfill
      · simp only [if_neg hseen] at hfill
        obtain ⟨next, hnext, hfill⟩ := Option.bind_eq_some_iff.mp hfill
        have hgiven : ∃ m ∈ (name, value) :: rest, m.1 = field.name :=
          ⟨(name, value), List.mem_cons_self, hname.symm⟩
        exact ih hrest (hread field hmem hgiven record value next hnext hkept) hfill

end Record

end Json

namespace Pod

/-! ### Single pods -/

theorem ofJson?_object (members : List (String × Json)) :
    ofJson? (.object members) = fillByName fields [] empty members := rfl

/-- An object that says nothing a pod could say is a pod that says nothing. -/
theorem ofJson?_of_unknown {members : List (String × Json)}
    (hunknown : ∀ m ∈ members, m.1 ≠ "metadata" ∧ m.1 ≠ "spec" ∧ m.1 ≠ "status") :
    ofJson? (.object members) = some empty := by
  rw [ofJson?_object]
  refine fillByName_of_unknown fun field hfield m hm => ?_
  obtain ⟨hmetadata, hspec, hstatus⟩ := hunknown m hm
  simp only [fields, List.mem_cons, List.not_mem_nil, or_false] at hfield
  rcases hfield with rfl | rfl | rfl
  · exact hmetadata
  · exact hspec
  · exact hstatus

/-- A pod declares no containers unless it has a member for them. -/
theorem allContainers_of_ofJson? {members : List (String × Json)} {pod : Pod}
    (hspec : ∀ m ∈ members, m.1 ≠ "spec") (hpod : ofJson? (.object members) = some pod) :
    pod.allContainers = [] := by
  rw [ofJson?_object] at hpod
  refine fillByName_induction (P := fun pod => pod.allContainers = []) ?_ rfl hpod
  intro field hfield hgiven record value filled hread hrecord
  simp only [fields, List.mem_cons, List.not_mem_nil, or_false] at hfield
  rcases hfield with rfl | rfl | rfl
  · obtain ⟨metadata, -, rfl⟩ := Option.map_eq_some_iff.mp hread
    exact hrecord
  · obtain ⟨m, hm, hname⟩ := hgiven
    exact absurd hname (hspec m hm)
  · obtain ⟨status, -, rfl⟩ := Option.map_eq_some_iff.mp hread
    exact hrecord

/-! ### Documents -/

theorem parse_eq_ok_iff {text : String} {value : Json} :
    Json.parse text = .ok value ↔ parseTokens (Token.lex text.toList) = .ok (value, []) := by
  unfold Json.parse
  cases h : parseTokens (Token.lex text.toList) with
  | error fault => simp [bind, Except.bind]
  | ok read =>
    obtain ⟨value', rest⟩ := read
    cases rest <;> simp [bind, Except.bind, checkEnd, pure, Except.pure]

theorem parseAll_of_parse {text : String} {value : Json} (h : Json.parse text = .ok value) :
    parseAll text = match allOfJson? value with
      | some pods => .ok pods
      | none => .error .mismatched := by
  unfold parseAll
  rw [parse_eq_ok_iff.mp h]
  simp only [bind, Except.bind]
  cases allOfJson? value with
  | none => rfl
  | some pods => rfl

/-! ### Lists -/

/-- A JSON text that is an object with one member `items`, which is an array. -/
structure IsList (text : String) (members : List (String × Json)) (elements : List Json) :
    Prop where
  parsed : Json.parse text = .ok (.object members)
  items : members.filter (·.1 = "items") = [("items", .array elements)]

/-- Pods that are one for each element, in order, and what the elements decode to. -/
def Decoded (elements : List Json) (pods : List Pod) : Prop :=
  List.Forall₂ (fun element pod => ofJson? element = some pod) elements pods

section Lists

variable {text : String} {members : List (String × Json)} {elements : List Json}

theorem allOfJson?_of_decoded {pods : List Pod}
    (hitems : members.filter (·.1 = "items") = [("items", .array elements)])
    (hpods : Decoded elements pods) : allOfJson? (.object members) = some pods := by
  have hdecode : list? ofJson? (.array elements) = some pods := mapM_eq_some_iff.mpr hpods
  simp only [allOfJson?, items?, hitems, Option.bind_eq_bind, Option.bind_some, hdecode]

theorem allOfJson?_of_broken
    (hitems : members.filter (·.1 = "items") = [("items", .array elements)])
    (hbroken : ∃ element ∈ elements, ofJson? element = none) :
    allOfJson? (.object members) = (ofJson? (.object members)).map ([·]) := by
  have hdecode : list? ofJson? (.array elements) = none := mapM_eq_none_iff.mpr hbroken
  simp only [allOfJson?, items?, hitems, Option.bind_eq_bind, Option.bind_some, hdecode]

theorem IsList.parseAll_of_decoded (h : IsList text members elements) {pods : List Pod}
    (hpods : Decoded elements pods) : parseAll text = .ok pods := by
  rw [parseAll_of_parse h.parsed, allOfJson?_of_decoded h.items hpods]

/-- With an element that is no pod, a list is read like any other object. -/
theorem IsList.parseAll_of_broken (h : IsList text members elements)
    (hbroken : ∃ element ∈ elements, ofJson? element = none) :
    parseAll text = match ofJson? (.object members) with
      | some pod => .ok [pod]
      | none => .error .mismatched := by
  rw [parseAll_of_parse h.parsed, allOfJson?_of_broken h.items hbroken]
  cases ofJson? (.object members) with
  | none => rfl
  | some pod => rfl

theorem Decoded.ne_none {pods : List Pod} (h : Decoded elements pods) :
    ∀ element ∈ elements, ofJson? element ≠ none := by
  intro element helement hnone
  have hsome := mapM_eq_some_iff.mpr h
  rw [mapM_eq_none_iff.mpr ⟨element, helement, hnone⟩] at hsome
  cases hsome

theorem IsList.decoded_of_parseAll (h : IsList text members elements)
    (hall : ∀ element ∈ elements, ofJson? element ≠ none) {pods : List Pod}
    (hread : parseAll text = .ok pods) : Decoded elements pods := by
  cases hpods : elements.mapM ofJson? with
  | none =>
    obtain ⟨element, helement, hnone⟩ := mapM_eq_none_iff.mp hpods
    exact absurd hnone (hall element helement)
  | some pods' =>
    have hdecoded : Decoded elements pods' := mapM_eq_some_iff.mp hpods
    have hsame := h.parseAll_of_decoded hdecoded
    rw [hread] at hsame
    cases hsame
    exact hdecoded

/-- A list of which every element is a pod is read as these pods, in order.  A list of which one is
    no pod is read, if at all, as the one pod that the list as a whole is, and this has no
    containers unless the list has a member `spec`.  So what is read is what the elements decode to
    if and only if all of them do, or the list as a whole is no pod. -/
theorem parseAll_keeps_items_iff (h : IsList text members elements) :
    (∀ pods, Decoded elements pods → parseAll text = .ok pods) ∧
    ((∃ element ∈ elements, ofJson? element = none) →
      (∀ pods, parseAll text = .ok pods → ∃ pod, pods = [pod] ∧
        ofJson? (.object members) = some pod ∧
        ((∀ m ∈ members, m.1 ≠ "spec") → pod.allContainers = [])) ∧
      ((∀ m ∈ members, m.1 ≠ "metadata" ∧ m.1 ≠ "spec" ∧ m.1 ≠ "status") →
        parseAll text = .ok [empty])) ∧
    ((∀ pods, parseAll text = .ok pods → Decoded elements pods) ↔
      (∀ element ∈ elements, ofJson? element ≠ none) ∨ ofJson? (.object members) = none) := by
  refine ⟨fun pods => h.parseAll_of_decoded, fun hbroken => ⟨?_, ?_⟩, ?_, ?_⟩
  · intro pods hread
    rw [h.parseAll_of_broken hbroken] at hread
    cases hpod : ofJson? (.object members) with
    | none =>
      rw [hpod] at hread
      cases hread
    | some pod =>
      rw [hpod] at hread
      cases hread
      exact ⟨pod, rfl, rfl, fun hspec => allContainers_of_ofJson? hspec hpod⟩
  · intro hunknown
    rw [h.parseAll_of_broken hbroken, ofJson?_of_unknown hunknown]
  · intro hkeeps
    by_cases hbroken : ∃ element ∈ elements, ofJson? element = none
    · -- what the list as a whole is would have to be what its elements decode to
      right
      cases hpod : ofJson? (.object members) with
      | none => rfl
      | some pod =>
        have hread := h.parseAll_of_broken hbroken
        rw [hpod] at hread
        obtain ⟨element, helement, hnone⟩ := hbroken
        exact absurd hnone ((hkeeps [pod] hread).ne_none element helement)
    · left
      intro element helement hnone
      exact hbroken ⟨element, helement, hnone⟩
  · rintro hkept pods hread
    by_cases hbroken : ∃ element ∈ elements, ofJson? element = none
    · rcases hkept with hall | hnone
      · obtain ⟨element, helement, hnone⟩ := hbroken
        exact absurd hnone (hall element helement)
      · rw [h.parseAll_of_broken hbroken, hnone] at hread
        cases hread
    · refine h.decoded_of_parseAll ?_ hread
      intro element helement hnone
      exact hbroken ⟨element, helement, hnone⟩

end Lists

/-- A list of two elements, of which the second one is no pod. -/
def brokenList : String :=
  "\x7b\"metadata\": \x7b\x7d, \"items\": [\x7b\"spec\": \x7b\x7d\x7d, \x7b\"spec\": null\x7d]\x7d"

def brokenElements : List Json :=
  [.object [("spec", .object [])], .object [("spec", .null)]]

theorem brokenList_isList :
    IsList brokenList [("metadata", .object []), ("items", .array brokenElements)]
      brokenElements :=
  ⟨rfl, rfl⟩

theorem parseAll_keeps_items_iff_brokenList :
    ofJson? (.object [("spec", .null)]) = none ∧
      (∀ pods, parseAll brokenList = .ok pods →
        ∃ pod, pods = [pod] ∧ pod.allContainers = []) ∧
      ¬ ∀ pods, parseAll brokenList = .ok pods → Decoded brokenElements pods := by
  obtain ⟨-, hbroken, hiff⟩ := parseAll_keeps_items_iff brokenList_isList
  have hnone : ofJson? (.object [("spec", .null)]) = none := rfl
  have hexists : ∃ element ∈ brokenElements, ofJson? element = none :=
    ⟨_, List.mem_cons_of_mem _ List.mem_cons_self, hnone⟩
  refine ⟨hnone, ?_, ?_⟩
  · intro pods hread
    obtain ⟨pod, hpods, -, hcontainers⟩ := (hbroken hexists).1 pods hread
    exact ⟨pod, hpods, hcontainers (by simp)⟩
  · intro hkeeps
    rcases hiff.mp hkeeps with hall | hpod
    · obtain ⟨element, helement, hnone⟩ := hexists
      exact hall element helement hnone
    · cases hpod

/-- What is read of a list need not be what its elements are. -/
theorem parseAll_drops_items :
    ¬ ∀ (text : String) (members : List (String × Json)) (elements : List Json),
      IsList text members elements → (∃ fault, parseAll text = .error fault) ∨
        ∃ pods, parseAll text = .ok pods ∧ Decoded elements pods := by
  intro hkeeps
  have hread : parseAll brokenList = .ok [empty] := rfl
  rcases hkeeps _ _ _ brokenList_isList with ⟨fault, hfault⟩ | ⟨pods, hpods, hdecoded⟩
  · rw [hread] at hfault
    cases hfault
  · rw [hread] at hpods
    cases hpods
    have hlength := List.Forall₂.length_eq hdecoded
    cases hlength

end Pod

end ImageFreshness
