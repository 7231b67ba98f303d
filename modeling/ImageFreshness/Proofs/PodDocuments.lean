import ImageFreshness.Proofs.JsonReadBack
import ImageFreshness.Proofs.PodLists
import Mathlib.Data.List.Nodup

/-!
# What a pod document says

A pod may be written in many ways: its fields may come in any order, those that have their default
may be left out, and members that no pod has may stand among them.  `Pod.WrittenAs` tells which
objects say a pod, `Pod.WrittenIn` which texts say some pods, and `Pod.parseAll_of_writtenIn` that
all of them are read as these pods.

The records that a pod is made of are all decoded alike, so what their members have to be is said
once (`Given`), and so is why they fill the record (`fillByName_of_given`).
-/

namespace ImageFreshness

namespace Json

/-! ### Members of a name -/

/-- One of the members has this name and its value is `IsCode`, or none has the name and the
    default is meant. -/
inductive Given (members : List (String × Json)) (name : String) (IsCode : Json → Prop)
    (isDefault : Prop) : Prop where
  | once {value : Json} : members.filter (·.1 = name) = [(name, value)] → IsCode value →
      Given members name IsCode isDefault
  | omitted : (∀ m ∈ members, m.1 ≠ name) → isDefault → Given members name IsCode isDefault

namespace Given

variable {members : List (String × Json)} {name : String} {IsCode : Json → Prop} {isDefault : Prop}

theorem imp {IsCode' : Json → Prop} {isDefault' : Prop}
    (h : Given members name IsCode isDefault) (hcode : ∀ value, IsCode value → IsCode' value)
    (hdefault : isDefault → isDefault') : Given members name IsCode' isDefault' := by
  cases h with
  | once honce hvalue => exact .once honce (hcode _ hvalue)
  | omitted hnone his => exact .omitted hnone (hdefault his)

theorem of_nil (h : Given [] name IsCode isDefault) : isDefault := by
  cases h with
  | once honce => cases honce
  | omitted _ his => exact his

/-- A member of another name does not count. -/
theorem of_cons_ne {m : String × Json} (h : Given (m :: members) name IsCode isDefault)
    (hname : m.1 ≠ name) : Given members name IsCode isDefault := by
  cases h with
  | once honce hvalue =>
    rw [List.filter_cons_of_neg (by simpa using hname)] at honce
    exact .once honce hvalue
  | omitted hnone his => exact .omitted (fun m hm => hnone m (List.mem_cons_of_mem _ hm)) his

theorem of_cons_eq {value : Json} (h : Given ((name, value) :: members) name IsCode isDefault) :
    IsCode value ∧ ∀ m ∈ members, m.1 ≠ name := by
  cases h with
  | once honce hvalue =>
    rw [List.filter_cons_of_pos (by simp), List.cons.injEq, Prod.mk.injEq,
      List.filter_eq_nil_iff] at honce
    obtain ⟨⟨-, rfl⟩, hrest⟩ := honce
    exact ⟨hvalue, fun m hm hname => hrest m hm (by simpa using hname)⟩
  | omitted hnone => exact absurd rfl (hnone _ List.mem_cons_self)

end Given

/-! ### Records made of fields -/

/-- A record is what these fields hold, and they can be filled one by one. -/
structure MakeUp {σ : Type} (fields : List (RecordField σ)) : Prop where
  names : (fields.map RecordField.name).Nodup
  get_set : ∀ p ∈ fields, ∀ x a, p.get (p.set x a) = a
  get_set_of_ne : ∀ p ∈ fields, ∀ q ∈ fields, q.name ≠ p.name → ∀ x a, q.get (p.set x a) = q.get x
  ext : ∀ x y, (∀ p ∈ fields, p.get x = p.get y) → x = y

namespace MakeUp

variable {σ : Type} {fields : List (RecordField σ)} {members : List (String × Json)}

theorem eq_of_name_eq (h : MakeUp fields) {p q : RecordField σ} (hp : p ∈ fields) (hq : q ∈ fields)
    (hname : p.name = q.name) : p = q :=
  List.inj_on_of_nodup_map h.names hp hq hname

/-- Each field is filled by the member that gives it, and keeps what it has if there is none. -/
theorem fillByName_of_given (h : MakeUp fields) {target record : σ} {seen : List String}
    (hseen : ∀ name ∈ seen, ∀ m ∈ members, m.1 ≠ name)
    (hgiven : ∀ p ∈ fields, Given members p.name (fun value => p.decode value = some (p.get target))
      (p.get record = p.get target)) :
    fillByName fields seen record members = some target := by
  induction members generalizing seen record with
  | nil => exact congrArg some (h.ext _ _ fun p hp => (hgiven p hp).of_nil)
  | cons m rest ih =>
    obtain ⟨name, value⟩ := m
    have hseen' : ∀ other ∈ seen, ∀ m ∈ rest, m.1 ≠ other :=
      fun other hother m hm => hseen other hother m (List.mem_cons_of_mem _ hm)
    cases hfind : fields.find? (·.name = name) with
    | none =>
      rw [List.find?_eq_none] at hfind
      simp only [fillByName, List.find?_eq_none.mpr hfind]
      refine ih hseen' fun p hp => (hgiven p hp).of_cons_ne ?_
      intro hname
      exact hfind p hp (decide_eq_true hname.symm)
    | some p =>
      have hp : p ∈ fields := List.mem_of_find?_eq_some hfind
      obtain rfl : p.name = name := by simpa using List.find?_some hfind
      have hnew : p.name ∉ seen := fun hmem => hseen _ hmem _ List.mem_cons_self rfl
      obtain ⟨hvalue, hlast⟩ := (hgiven p hp).of_cons_eq
      have hread : p.read record value = some (p.set record (p.get target)) := by
        simp only [RecordField.read, hvalue, Option.map_some]
      simp only [fillByName, hfind, if_neg hnew, hread, Option.bind_eq_bind, Option.bind_some]
      -- the field is filled, no later member has its name, and the other fields are as before
      refine ih ?_ ?_
      · rintro other hother
        rcases List.mem_cons.mp hother with rfl | hother
        · exact hlast
        · exact hseen' other hother
      · intro q hq
        by_cases hname : q.name = p.name
        · obtain rfl := h.eq_of_name_eq hq hp hname
          exact .omitted hlast (h.get_set q hq record _)
        · refine ((hgiven q hq).of_cons_ne (Ne.symm hname)).imp (fun _ => id) fun hkept => ?_
          rw [h.get_set_of_ne p hp q hq hname, hkept]

end MakeUp

/-! ### Lists and dictionaries -/

/-- The arrays whose elements say these values, in order. -/
inductive ArrayOf {α : Type} (Says : α → Json → Prop) (values : List α) : Json → Prop where
  | array {elements : List Json} : List.Forall₂ Says values elements →
      ArrayOf Says values (.array elements)

/-- The objects that have these entries and nothing else, in any order. -/
inductive DictionaryOf (entries : List (String × String)) : Json → Prop where
  | object {written : List (String × String)} : (written.map Prod.fst).Nodup →
      entries.Perm written →
      DictionaryOf entries (.object (written.map fun e => (e.1, .string e.2)))

theorem ArrayOf.list? {α : Type} {Says : α → Json → Prop} {decode : Json → Option α}
    (hdecode : ∀ value json, Says value json → decode json = some value) {values : List α}
    {json : Json} (h : ArrayOf Says values json) : list? decode json = some values := by
  obtain ⟨helements⟩ := h
  exact mapM_eq_some_iff.mpr (helements.flip.imp fun json value hsays => hdecode value json hsays)

namespace Given

variable {members : List (String × Json)} {name : String}

theorem string {s : String} (h : Given members name (· = .string s) (s = "")) :
    Given members name (fun value => string? value = some s) ("" = s) := by
  refine h.imp ?_ Eq.symm
  rintro _ rfl
  rfl

theorem list {α : Type} {Says : α → Json → Prop} {decode : Json → Option α} {values : List α}
    (hdecode : ∀ value json, Says value json → decode json = some value)
    (h : Given members name (ArrayOf Says values) (values = [])) :
    Given members name (fun value => list? decode value = some values) ([] = values) :=
  h.imp (fun _ hvalue => hvalue.list? hdecode) Eq.symm

/-- Where a value is decoded as another one that is as good, the field has that one. -/
theorem exists_similar {α : Type} {Says : α → Json → Prop} {Similar : α → α → Prop}
    {decode : Json → Option α}
    (hdecode : ∀ a json, Says a json → ∃ b, Similar a b ∧ decode json = some b)
    (hrefl : ∀ a, Similar a a) {a default : α} (h : Given members name (Says a) (a = default)) :
    ∃ b, Similar a b ∧ Given members name (fun value => decode value = some b) (default = b) := by
  cases h with
  | once honce hvalue =>
    obtain ⟨b, hsimilar, hb⟩ := hdecode _ _ hvalue
    exact ⟨b, hsimilar, .once honce hb⟩
  | omitted hnone hdefault => exact ⟨a, hrefl a, .omitted hnone hdefault.symm⟩

end Given

/-- Of entries with different names all count. -/
theorem foldr_entries {entries : List (String × String)} (h : (entries.map Prod.fst).Nodup) :
    entries.foldr (fun (name, s) acc => if acc.any (·.1 = name) then acc else (name, s) :: acc) [] =
      entries := by
  induction entries with
  | nil => rfl
  | cons e rest ih =>
    rw [List.map_cons, List.nodup_cons] at h
    have hnew : rest.any (·.1 = e.1) = false := by
      rw [List.any_eq_false]
      intro other hother hname
      exact h.1 (List.mem_map.mpr ⟨other, hother, of_decide_eq_true hname⟩)
    rw [List.foldr_cons, ih h.2]
    simp only [hnew, Bool.false_eq_true, if_false]

theorem DictionaryOf.dictionary? {entries : List (String × String)} {json : Json}
    (h : DictionaryOf entries json) :
    ∃ written, entries.Perm written ∧ dictionary? json = some written := by
  obtain @⟨written, hnodup, hperm⟩ := h
  refine ⟨written, hperm, ?_⟩
  have hentries {decode : String × Json → Option (String × String)}
      (hdecode : ∀ e : String × String, decode (e.1, .string e.2) = some e) :
      (written.map fun e => (e.1, Json.string e.2)).mapM decode = some written := by
    rw [mapM_eq_some_iff, List.forall₂_map_left_iff, List.forall₂_same]
    exact fun e _ => hdecode e
  simp only [Json.dictionary?, members?, Option.bind_eq_bind, Option.bind_some]
  rw [hentries fun e => rfl, Option.bind_some, foldr_entries hnodup]
  rfl

end Json

open Json

/-! ### Containers -/

inductive Container.WrittenAs (c : Container) : Json → Prop where
  | object {members : List (String × Json)} :
      Given members "name" (· = .string c.name) (c.name = "") →
      Given members "image" (· = .string c.image) (c.image = "") → WrittenAs c (.object members)

inductive ContainerStatus.WrittenAs (c : ContainerStatus) : Json → Prop where
  | object {members : List (String × Json)} :
      Given members "name" (· = .string c.name) (c.name = "") →
      Given members "imageID" (· = .string c.imageId) (c.imageId = "") →
      WrittenAs c (.object members)

namespace Container

theorem fields_makeUp : MakeUp fields where
  names := by decide
  get_set := by simp [fields]
  get_set_of_ne := by simp [fields]
  ext := by
    rintro ⟨name, image⟩ ⟨name', image'⟩ h
    simpa [fields] using h

theorem WrittenAs.ofJson? {c : Container} {json : Json} (h : c.WrittenAs json) :
    Container.ofJson? json = some c := by
  obtain ⟨hname, himage⟩ := h
  apply fields_makeUp.fillByName_of_given (by simp)
  simp only [fields, List.forall_mem_cons]
  exact ⟨hname.string, himage.string, by simp⟩

end Container

namespace ContainerStatus

theorem fields_makeUp : MakeUp fields where
  names := by decide
  get_set := by simp [fields]
  get_set_of_ne := by simp [fields]
  ext := by
    rintro ⟨name, imageId⟩ ⟨name', imageId'⟩ h
    simpa [fields] using h

theorem WrittenAs.ofJson? {c : ContainerStatus} {json : Json} (h : c.WrittenAs json) :
    ContainerStatus.ofJson? json = some c := by
  obtain ⟨hname, himageId⟩ := h
  apply fields_makeUp.fillByName_of_given (by simp)
  simp only [fields, List.forall_mem_cons]
  exact ⟨hname.string, himageId.string, by simp⟩

end ContainerStatus

/-! ### What is declared and what is recorded -/

inductive PodSpec.WrittenAs (spec : PodSpec) : Json → Prop where
  | object {members : List (String × Json)} :
      Given members "containers" (ArrayOf Container.WrittenAs spec.containers)
        (spec.containers = []) →
      Given members "initContainers" (ArrayOf Container.WrittenAs spec.initContainers)
        (spec.initContainers = []) →
      WrittenAs spec (.object members)

inductive PodStatus.WrittenAs (status : PodStatus) : Json → Prop where
  | object {members : List (String × Json)} :
      Given members "containerStatuses" (ArrayOf ContainerStatus.WrittenAs status.containers)
        (status.containers = []) →
      Given members "initContainerStatuses"
        (ArrayOf ContainerStatus.WrittenAs status.initContainers) (status.initContainers = []) →
      WrittenAs status (.object members)

namespace PodSpec

theorem fields_makeUp : MakeUp fields where
  names := by decide
  get_set := by simp [fields]
  get_set_of_ne := by simp [fields]
  ext := by
    rintro ⟨containers, initContainers⟩ ⟨containers', initContainers'⟩ h
    simpa [fields] using h

theorem WrittenAs.ofJson? {spec : PodSpec} {json : Json} (h : spec.WrittenAs json) :
    PodSpec.ofJson? json = some spec := by
  obtain ⟨hcontainers, hinit⟩ := h
  have hdecode : ∀ c json, Container.WrittenAs c json → Container.ofJson? json = some c :=
    fun _ _ hc => hc.ofJson?
  apply fields_makeUp.fillByName_of_given (by simp)
  simp only [fields, List.forall_mem_cons]
  exact ⟨hcontainers.list hdecode, hinit.list hdecode, by simp⟩

end PodSpec

namespace PodStatus

theorem fields_makeUp : MakeUp fields where
  names := by decide
  get_set := by simp [fields]
  get_set_of_ne := by simp [fields]
  ext := by
    rintro ⟨containers, initContainers⟩ ⟨containers', initContainers'⟩ h
    simpa [fields] using h

theorem WrittenAs.ofJson? {status : PodStatus} {json : Json} (h : status.WrittenAs json) :
    PodStatus.ofJson? json = some status := by
  obtain ⟨hcontainers, hinit⟩ := h
  have hdecode : ∀ c json, ContainerStatus.WrittenAs c json →
      ContainerStatus.ofJson? json = some c := fun _ _ hc => hc.ofJson?
  apply fields_makeUp.fillByName_of_given (by simp)
  simp only [fields, List.forall_mem_cons]
  exact ⟨hcontainers.list hdecode, hinit.list hdecode, by simp⟩

end PodStatus

/-! ### Metadata -/

namespace PodMetadata

inductive WrittenAs (m : PodMetadata) : Json → Prop where
  | object {members : List (String × Json)} :
      Given members "name" (· = .string m.name) (m.name = "") →
      Given members "namespace" (· = .string m.space) (m.space = "") →
      Given members "annotations" (DictionaryOf m.annotations) (m.annotations = []) →
      WrittenAs m (.object members)

/-- Metadata that differ at most in the order of the annotations. -/
structure Same (m n : PodMetadata) : Prop where
  name : n.name = m.name
  space : n.space = m.space
  annotations : m.annotations.Perm n.annotations

theorem Same.refl (m : PodMetadata) : Same m m := ⟨rfl, rfl, .refl _⟩

theorem fields_makeUp : MakeUp fields where
  names := by decide
  get_set := by simp [fields]
  get_set_of_ne := by simp [fields]
  ext := by
    rintro ⟨name, space, annotations⟩ ⟨name', space', annotations'⟩ h
    simpa [fields] using h

theorem WrittenAs.ofJson? {m : PodMetadata} {json : Json} (h : m.WrittenAs json) :
    ∃ n, m.Same n ∧ PodMetadata.ofJson? json = some n := by
  obtain ⟨hname, hspace, hannotations⟩ := h
  obtain ⟨entries, hperm, hentries⟩ :=
    hannotations.exists_similar (fun _ _ hwritten => hwritten.dictionary?) List.Perm.refl
  refine ⟨{ m with annotations := entries }, ⟨rfl, rfl, hperm⟩, ?_⟩
  apply fields_makeUp.fillByName_of_given (by simp)
  simp only [fields, List.forall_mem_cons]
  exact ⟨hname.string, hspace.string, hentries, by simp⟩

end PodMetadata

/-! ### Pods -/

namespace Pod

/-- The objects that say a pod. -/
inductive WrittenAs (pod : Pod) : Json → Prop where
  | object {members : List (String × Json)} :
      Given members "metadata" pod.metadata.WrittenAs (pod.metadata = empty.metadata) →
      Given members "spec" pod.spec.WrittenAs (pod.spec = empty.spec) →
      Given members "status" pod.status.WrittenAs (pod.status = empty.status) →
      WrittenAs pod (.object members)

/-- Pods that differ at most in the order of the annotations. -/
structure Same (p q : Pod) : Prop where
  metadata : p.metadata.Same q.metadata
  spec : q.spec = p.spec
  status : q.status = p.status

theorem fields_makeUp : MakeUp fields where
  names := by decide
  get_set := by simp [fields]
  get_set_of_ne := by simp [fields]
  ext := by
    rintro ⟨metadata, spec, status⟩ ⟨metadata', spec', status'⟩ h
    simpa [fields] using h

theorem WrittenAs.ofJson? {pod : Pod} {json : Json} (h : pod.WrittenAs json) :
    ∃ read, pod.Same read ∧ Pod.ofJson? json = some read := by
  obtain ⟨hmetadata, hspec, hstatus⟩ := h
  obtain ⟨metadata, hsame, hmetadata⟩ :=
    hmetadata.exists_similar (fun _ _ hwritten => hwritten.ofJson?) PodMetadata.Same.refl
  refine ⟨{ pod with metadata := metadata }, ⟨hsame, rfl, rfl⟩, ?_⟩
  apply fields_makeUp.fillByName_of_given (by simp)
  simp only [fields, List.forall_mem_cons]
  exact ⟨hmetadata, hspec.imp (fun _ hwritten => hwritten.ofJson?) Eq.symm,
    hstatus.imp (fun _ hwritten => hwritten.ofJson?) Eq.symm, by simp⟩

/-! ### Documents -/

/-- The texts that say some pods: those of a list of pods, and those of a single pod that has no
    member `items`. -/
inductive WrittenIn : List Pod → String → Prop where
  | list {pods : List Pod} {members : List (String × Json)} {elements : List Json}
      {text : String} : IsText (.object members) text →
      members.filter (·.1 = "items") = [("items", .array elements)] →
      List.Forall₂ WrittenAs pods elements → WrittenIn pods text
  | single {pod : Pod} {members : List (String × Json)} {text : String} :
      IsText (.object members) text → (∀ m ∈ members, m.1 ≠ "items") →
      pod.WrittenAs (.object members) → WrittenIn [pod] text

theorem exists_decoded {pods : List Pod} {elements : List Json}
    (h : List.Forall₂ WrittenAs pods elements) :
    ∃ read, Decoded elements read ∧ List.Forall₂ Same pods read := by
  induction h with
  | nil => exact ⟨[], .nil, .nil⟩
  | cons hpod _ ih =>
    obtain ⟨read, hsame, hread⟩ := hpod.ofJson?
    obtain ⟨more, hdecoded, hmore⟩ := ih
    exact ⟨read :: more, .cons hread hdecoded, .cons hsame hmore⟩

/-- A text of some pods is read as these pods. -/
theorem parseAll_of_writtenIn {pods : List Pod} {text : String} (h : WrittenIn pods text) :
    ∃ read, parseAll text = .ok read ∧ List.Forall₂ Same pods read := by
  cases h with
  | @list _ members elements _ htext hitems hpods =>
    obtain ⟨read, hdecoded, hsame⟩ := exists_decoded hpods
    have hlist : IsList text members elements := ⟨htext.parse, hitems⟩
    exact ⟨read, hlist.parseAll_of_decoded hdecoded, hsame⟩
  | @single pod members _ htext hnone hpod =>
    obtain ⟨read, hsame, hread⟩ := hpod.ofJson?
    have hitems : items? (.object members) = none := by
      have hfilter : members.filter (·.1 = "items") = [] := by
        rw [List.filter_eq_nil_iff]
        exact fun m hm hname => hnone m hm (of_decide_eq_true hname)
      simp only [items?, hfilter]
    refine ⟨[read], ?_, .cons hsame .nil⟩
    rw [parseAll_of_parse htext.parse]
    simp only [allOfJson?, hitems, Option.bind_eq_bind, Option.bind_none, hread, Option.map_some]

/-- A list of one pod, with white space, an escaped character, a member that no pod has, and the
    fields in an order of their own. -/
def notedList : String :=
  "\x7b\"items\": [\x7b\"n\\u006fte\": 15, \"spec\": \x7b\"containers\": " ++
    "[\x7b\"image\": \"app:1\"\x7d]\x7d,\"metadata\": " ++
    "\x7b\"annotations\": \x7b\"b\": \"2\", \"a\": \"1\"\x7d\x7d\x7d]\x7d"

def notedValue : Json :=
  .object [("note", .number (.unsigned 15)),
    ("spec", .object [("containers", .array [.object [("image", .string "app:1")]])]),
    ("metadata", .object [("annotations", .object [("b", .string "2"), ("a", .string "1")])])]

def notedPod : Pod :=
  ⟨⟨"", "", [("a", "1"), ("b", "2")]⟩, ⟨[⟨"", "app:1"⟩], []⟩, empty.status⟩

theorem notedPod_writtenAs : notedPod.WrittenAs notedValue := by
  have hcontainer : Container.WrittenAs ⟨"", "app:1"⟩ (.object [("image", .string "app:1")]) :=
    .object (.omitted (by simp) rfl) (.once rfl rfl)
  have hspec : notedPod.spec.WrittenAs
      (.object [("containers", .array [.object [("image", .string "app:1")]])]) :=
    .object (.once rfl (.array (.cons hcontainer .nil))) (.omitted (by simp) rfl)
  have hannotations : DictionaryOf notedPod.metadata.annotations
      (.object [("b", .string "2"), ("a", .string "1")]) :=
    @DictionaryOf.object _ [("b", "2"), ("a", "1")] (by decide) (.swap _ _ _)
  have hmetadata : notedPod.metadata.WrittenAs
      (.object [("annotations", .object [("b", .string "2"), ("a", .string "1")])]) :=
    .object (.omitted (by simp) rfl) (.omitted (by simp) rfl) (.once rfl hannotations)
  exact .object (.once rfl hmetadata) (.once rfl hspec) (.omitted (by simp) rfl)

theorem notedValue_nested : Nested 125 notedValue := by
  have hcontainers : Nested 123 (.array [.object [("image", .string "app:1")]]) :=
    .array (List.forall_mem_singleton.mpr (.object (List.forall_mem_singleton.mpr (.string _))))
  have hannotations : Nested 123 (.object [("b", .string "2"), ("a", .string "1")]) :=
    .object (List.forall_mem_cons.mpr ⟨.string _, List.forall_mem_singleton.mpr (.string _)⟩)
  refine .object (List.forall_mem_cons.mpr ⟨.number _, List.forall_mem_cons.mpr ⟨?_, ?_⟩⟩)
  · exact .object (List.forall_mem_singleton.mpr hcontainers)
  · exact List.forall_mem_singleton.mpr (.object (List.forall_mem_singleton.mpr hannotations))

set_option maxRecDepth 2000 in
theorem notedList_spelled :
    Spelled (tokens (.object [("items", .array [notedValue])])) notedList.toList := by
  have hzero : ∀ rest, ['1', '5'] = '0' :: rest → rest = [] :=
    fun _ hcons => absurd (List.cons.inj hcons).1 (by decide)
  have number : Token.Spells (.number (.ok (.unsigned 15))) "15".toList :=
    .number (.of_digits false ⟨by decide, List.all_eq_true.mp rfl⟩ hzero) rfl
  have note : Json.Spells "note".toList "n\\u006fte".toList :=
    .plain (by decide) (by decide) (by decide)
      (.code (n := 0x6f) rfl rfl rfl (.of_plain (by decide : "te".toList.all _ = true)))
  refine .word .openBrace (.word (.of_plain (by decide)) (.word .colon (.space ?_)))
  refine .word .openBracket (.word .openBrace ?_)
  -- the member that no pod has
  refine .word (.string note) (.word .colon (.space (.word number (.word .comma (.space ?_)))))
  -- the container
  refine .word (.of_plain (by decide)) (.word .colon (.space (.word .openBrace ?_)))
  refine .word (.of_plain (by decide)) (.word .colon (.space (.word .openBracket ?_)))
  refine .word .openBrace (.word (.of_plain (by decide)) (.word .colon (.space ?_)))
  refine .word (.of_plain (by decide)) (.word .closeBrace (.word .closeBracket ?_))
  refine .word .closeBrace (.word .comma ?_)
  -- the annotations
  refine .word (.of_plain (by decide)) (.word .colon (.space (.word .openBrace ?_)))
  refine .word (.of_plain (by decide)) (.word .colon (.space (.word .openBrace ?_)))
  refine .word (.of_plain (by decide)) (.word .colon (.space (.word (.of_plain (by decide)) ?_)))
  refine .word .comma (.space (.word (.of_plain (by decide)) (.word .colon (.space ?_))))
  refine .word (.of_plain (by decide)) (.word .closeBrace (.word .closeBrace ?_))
  refine .word .closeBrace (.word .closeBracket (.word .closeBrace ?_))
  exact .nil (List.forall_mem_nil _)

theorem notedList_isText : IsText (.object [("items", .array [notedValue])]) notedList where
  nested := .object (List.forall_mem_singleton.mpr
    (.array (List.forall_mem_singleton.mpr notedValue_nested)))
  spelled := notedList_spelled

theorem parseAll_of_writtenIn_notedList :
    WrittenIn [notedPod] notedList ∧
      ∃ read, parseAll notedList = .ok read ∧ List.Forall₂ Same [notedPod] read := by
  have hwritten : WrittenIn [notedPod] notedList :=
    .list notedList_isText rfl (.cons notedPod_writtenAs .nil)
  exact ⟨hwritten, parseAll_of_writtenIn hwritten⟩

end Pod

end ImageFreshness
