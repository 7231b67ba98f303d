import ImageFreshness.Image.Tag
import ImageFreshness.Proofs.InstantTexts
import ImageFreshness.Proofs.JsonOutput
import ImageFreshness.Proofs.RecordReading

/-!
# Reading back a tag

The JSON text of a tag is read as this tag (`ImageTag.parse_text_toJson`).  The fields that the text
leaves out are those that are empty, which is what they are when none is read.
-/

namespace ImageFreshness

namespace Json

theorem moreMembers_eq_furtherElements (members : List (String × Json)) :
    moreMembers members = furtherElements .closeBrace
      (members.map fun m => memberTokens (m.1, m.2.tokens)) := by
  induction members with
  | nil => rfl
  | cons m members ih => rw [moreMembers, ih]; rfl

theorem tokens_object (members : List (String × Json)) :
    tokens (.object members) = objectTokens (members.map fun m => (m.1, m.2.tokens)) := by
  rw [objectTokens, List.map_map]
  cases members with
  | nil => rfl
  | cons m members =>
    rw [tokens, moreMembers_eq_furtherElements]
    rfl

/-- A value without numbers is read from its text if it is read from its tokens. -/
theorem NumberFree.run_text {value : Json} {n : Nat} (h : NumberFree n value) {α : Type}
    {reader : Reader α} {a : α} (htakes : reader.Takes value.tokens a) :
    reader.run value.text = .ok a :=
  htakes.run (h.spelled_text.lex h.nested.separated)

end Json

open Json

namespace ImageTag

def parts : List (Reader.Part ImageTag) := [
  ⟨"tag", true, .string, tag, fun t s => { t with tag := s }, fun _ _ => rfl⟩,
  ⟨"sha", true, .string, digest, fun t s => { t with digest := s }, fun _ _ => rfl⟩,
  ⟨"timestamp", true, .refine .string fun s => Instant.parse? s.toList, created,
    fun t i => { t with created := i }, fun _ _ => rfl⟩,
  ⟨"architecture", false, .string, architecture, fun t s => { t with architecture := s },
    fun _ _ => rfl⟩,
  ⟨"os", false, .string, os, fun t s => { t with os := s }, fun _ _ => rfl⟩]

theorem reader_eq : reader = .record (parts.map Reader.Part.field) (ofDigest "" "") := rfl

theorem parts_isMadeOf : Reader.IsMadeOf parts where
  names := by decide
  get_set_of_ne := by simp [parts]
  ext := by
    rintro ⟨tag, digest, created, architecture, os⟩ ⟨tag', digest', created', architecture', os'⟩ h
    simpa [parts] using h

variable (t : ImageTag)

/-- The names and texts of the fields that are written. -/
def texts : List (String × String) :=
  [("tag", t.tag), ("sha", t.digest), ("timestamp", String.ofList t.created.render)] ++
    (if t.architecture = "" then [] else [("architecture", t.architecture)]) ++
    (if t.os = "" then [] else [("os", t.os)])

theorem toJson_eq : t.toJson = .object (t.texts.map fun m => (m.1, .string m.2)) := by
  unfold toJson texts
  split <;> split <;> rfl

theorem numberFree_toJson : NumberFree 1 t.toJson := by
  rw [toJson_eq]
  apply NumberFree.object
  intro m hm
  obtain ⟨text, -, rfl⟩ := List.mem_map.mp hm
  exact .string text.2

theorem tokens_toJson :
    t.toJson.tokens = objectTokens (t.texts.map fun m => (m.1, [.string (.ok m.2)])) := by
  rw [toJson_eq, tokens_object, List.map_map]
  rfl

variable {t}

theorem mem_texts {m : String × String} :
    m ∈ t.texts ↔ m = ("tag", t.tag) ∨ m = ("sha", t.digest) ∨
      m = ("timestamp", String.ofList t.created.render) ∨
      (t.architecture ≠ "" ∧ m = ("architecture", t.architecture)) ∨
      (t.os ≠ "" ∧ m = ("os", t.os)) := by
  unfold texts
  split <;> split <;> simp_all

theorem names_texts_sublist : (t.texts.map Prod.fst).Sublist (parts.map Reader.Part.name) := by
  unfold texts
  split <;> split
  all_goals
    simp only [List.map_append, List.map_cons, List.map_nil]
    decide

theorem takes_of_mem_texts (h : t.created.IsRepresentable) :
    ∀ p ∈ parts, ∀ s, (p.name, s) ∈ t.texts → p.reader.Takes [.string (.ok s)] (p.get t) := by
  simp only [parts, List.forall_mem_cons]
  refine ⟨?_, ?_, ?_, ?_, ?_, ?_⟩
  · intro s hs
    obtain rfl : s = t.tag := by simpa [mem_texts] using hs
    exact Reader.string_takes _
  · intro s hs
    obtain rfl : s = t.digest := by simpa [mem_texts] using hs
    exact Reader.string_takes _
  · intro s hs
    obtain rfl : s = String.ofList t.created.render := by simpa [mem_texts] using hs
    apply (Reader.string_takes _).refine
    rw [String.toList_ofList]
    exact Instant.parse?_render h
  · intro s hs
    obtain ⟨-, rfl⟩ : t.architecture ≠ "" ∧ s = t.architecture := by simpa [mem_texts] using hs
    exact Reader.string_takes _
  · intro s hs
    obtain ⟨-, rfl⟩ : t.os ≠ "" ∧ s = t.os := by simpa [mem_texts] using hs
    exact Reader.string_takes _
  · simp

/-- A field that is not written is one that is empty. -/
theorem empty_of_notMem_texts : ∀ p ∈ parts, p.name ∉ t.texts.map Prod.fst →
    p.get (ofDigest "" "") = p.get t ∧ (p.isRequired = true → p.name ∈ ([] : List String)) := by
  have written {name s : String} (h : (name, s) ∈ t.texts) : name ∈ t.texts.map Prod.fst :=
    List.mem_map_of_mem h
  simp only [parts, List.forall_mem_cons]
  refine ⟨?_, ?_, ?_, ?_, ?_, ?_⟩
  · intro hnone
    exact absurd (written (mem_texts.mpr (.inl rfl))) hnone
  · intro hnone
    exact absurd (written (mem_texts.mpr (.inr (.inl rfl)))) hnone
  · intro hnone
    exact absurd (written (mem_texts.mpr (.inr (.inr (.inl rfl))))) hnone
  · intro hnone
    refine ⟨?_, nofun⟩
    by_contra hne
    have hmem : ("architecture", t.architecture) ∈ t.texts :=
      mem_texts.mpr (.inr (.inr (.inr (.inl ⟨Ne.symm hne, rfl⟩))))
    exact hnone (written hmem)
  · intro hnone
    refine ⟨?_, nofun⟩
    by_contra hne
    have hmem : ("os", t.os) ∈ t.texts :=
      mem_texts.mpr (.inr (.inr (.inr (.inr ⟨Ne.symm hne, rfl⟩))))
    exact hnone (written hmem)
  · simp

theorem completes_texts (h : t.created.IsRepresentable) :
    Reader.Completes parts t [] (ofDigest "" "")
      (t.texts.map fun m => (m.1, [.string (.ok m.2)])) := by
  have hnames : (t.texts.map fun m => (m.1, [Token.string (.ok m.2)])).map Prod.fst =
      t.texts.map Prod.fst := List.map_map
  constructor
  · intro p hp
    constructor
    · rw [hnames, List.nil_append]
      exact List.nodup_iff_count_le_one.mp
        (parts_isMadeOf.names.sublist names_texts_sublist) p.name
    · intro m hm hname
      obtain ⟨⟨name, s⟩, hs, rfl⟩ := List.mem_map.mp hm
      obtain rfl : name = p.name := hname
      exact takes_of_mem_texts h p hp s hs
    · rw [hnames]
      exact empty_of_notMem_texts p hp
  · intro m hm hunknown
    exact absurd (names_texts_sublist.subset (hnames ▸ List.mem_map_of_mem hm)) hunknown

/-- A tag is read back from its JSON text. -/
theorem parse_text_toJson (h : t.created.IsRepresentable) : parse t.toJson.text = .ok t := by
  refine t.numberFree_toJson.run_text ?_
  rw [tokens_toJson, reader_eq]
  exact (completes_texts h).takes parts_isMadeOf

/-- A tag from before the year 0, to the nanosecond, with characters that have to be escaped and
    without an architecture. -/
def ancientTag : ImageTag := ⟨"1.0 \"\\", "sha256:\n\x01é", ⟨-62198755201, 1⟩, "", "linux"⟩

theorem parse_text_toJson_ancientTag :
    ancientTag.created.IsRepresentable ∧ parse ancientTag.toJson.text = .ok ancientTag := by
  have hrepresentable : ancientTag.created.IsRepresentable := ⟨by decide, by decide, by decide⟩
  exact ⟨hrepresentable, parse_text_toJson hrepresentable⟩

end ImageTag

end ImageFreshness
