import ImageFreshness.Image.Reference

/-!
# Image references and their texts

`ImageReference.parse` looks for a tag in one way where the text has a digest and in another way
where it has none.  Either way nothing of the text is lost, and the parts of an image that is
written out are found again (`ImageReference.parse_roundTrip`).  What the two ways make of one and
the same text is not always the same (`ImageReference.parse_pinned_iff`).
-/

namespace ImageFreshness

open Text

namespace ImageReference

/-! ### Hosts and paths -/

/-- A text is cut into a host and a path at its first slash.  One without a slash is all path. -/
inductive HostPath : List Char → List Char → Prop where
  | slash {host rest : List Char} : '/' ∉ host → HostPath host ('/' :: rest)
  | bare {path : List Char} : '/' ∉ path → HostPath [] path

theorem exists_hostPath (cs : List Char) :
    ∃ host path, cs = host ++ path ∧ HostPath host path := by
  by_cases hslash : '/' ∈ cs
  · obtain ⟨host, rest, rfl, hhost⟩ := List.eq_append_cons_of_mem hslash
    exact ⟨host, '/' :: rest, rfl, .slash hhost⟩
  · exact ⟨[], cs, rfl, .bare hslash⟩

/-- The text from its first slash on, or all of it if it has none. -/
def pathPart (cs : List Char) : List Char :=
  if '/' ∈ cs then cs.dropWhile (· ≠ '/') else cs

variable {host path : List Char}

theorem HostPath.splitPath_append (h : HostPath host path) :
    splitPath (host ++ path) = (host, path) := by
  cases h with
  | slash hhost =>
    have hne : ∀ c ∈ host, decide (c ≠ '/') = true := by
      intro c hc
      exact decide_eq_true fun hslash => hhost (hslash ▸ hc)
    rw [splitPath, if_pos (by simp), List.takeWhile_append_of_pos hne,
      List.dropWhile_append_of_pos hne]
    simp
  | bare hpath => rw [List.nil_append, splitPath, if_neg hpath]

theorem pathPart_eq (cs : List Char) : pathPart cs = (splitPath cs).2 := by
  unfold pathPart splitPath
  split <;> rfl

theorem HostPath.pathPart_append (h : HostPath host path) : pathPart (host ++ path) = path := by
  rw [pathPart_eq, h.splitPath_append]

/-! ### Tags -/

/-- A text is all image, or an image and a tag with a colon between them. -/
inductive Named (cs : List Char) : List Char × List Char → Prop where
  | untagged : Named cs (cs, [])
  | tagged {before tag : List Char} : cs = before ++ ':' :: tag → Named cs (before, tag)

theorem cutTagOfPath_of_colon {before tag : List Char}
    (h : HostPath host (before ++ ':' :: tag)) (hbefore : ':' ∉ before) :
    cutTagOfPath (host ++ (before ++ ':' :: tag)) = (host ++ before, tag) := by
  simp only [cutTagOfPath, h.splitPath_append, cutFirst_append_cons hbefore]

theorem cutTagOfPath_of_notMem (h : HostPath host path) (hpath : ':' ∉ path) :
    cutTagOfPath (host ++ path) = (host ++ path, []) := by
  simp only [cutTagOfPath, h.splitPath_append, cutFirst_eq_none_iff.mpr hpath]

theorem named_cutTagOfPath (cs : List Char) : Named cs (cutTagOfPath cs) := by
  obtain ⟨host, path, rfl, h⟩ := exists_hostPath cs
  by_cases hcolon : ':' ∈ path
  · obtain ⟨before, tag, rfl, hbefore⟩ := List.eq_append_cons_of_mem hcolon
    rw [cutTagOfPath_of_colon h hbefore]
    exact .tagged (by simp)
  · rw [cutTagOfPath_of_notMem h hcolon]
    exact .untagged

/-- A tag at the end has no colon or slash in it. -/
theorem cutTagAtEnd_append_cons (before : List Char) {tag : List Char} (hcolon : ':' ∉ tag)
    (hslash : '/' ∉ tag) : cutTagAtEnd (before ++ ':' :: tag) = (before, tag) := by
  simp only [cutTagAtEnd, cutLast_append_cons hcolon, if_neg hslash]

/-- Either there is no tag, or it stands behind the last colon and no slash follows there. -/
theorem cutTagAtEnd_cases (cs : List Char) :
    cutTagAtEnd cs = (cs, []) ∨
      ∃ before tag, cs = before ++ ':' :: tag ∧ ':' ∉ tag ∧ '/' ∉ tag ∧
        cutTagAtEnd cs = (before, tag) := by
  unfold cutTagAtEnd
  split
  · next before tag hcut =>
    obtain ⟨hcs, hcolon⟩ := cutLast_eq_some_iff.mp hcut
    by_cases hslash : '/' ∈ tag
    · exact Or.inl (if_pos hslash)
    · exact Or.inr ⟨before, tag, hcs, hcolon, hslash, if_neg hslash⟩
  · exact Or.inl rfl

theorem named_cutTagAtEnd (cs : List Char) : Named cs (cutTagAtEnd cs) := by
  rcases cutTagAtEnd_cases cs with hcut | ⟨before, tag, hcs, -, -, hcut⟩
  · rw [hcut]
    exact .untagged
  · rw [hcut]
    exact .tagged hcs

/-- A colon of the host is followed by the slash before the path, so what stands behind it is no
    tag. -/
theorem cutTagAtEnd_of_notMem (h : HostPath host path) (hpath : ':' ∉ path) :
    cutTagAtEnd (host ++ path) = (host ++ path, []) := by
  rcases cutTagAtEnd_cases (host ++ path) with hcut | ⟨before, tag, hcs, -, hslash, -⟩
  · exact hcut
  · exfalso
    have htag : ':' :: tag <:+ host ++ path := ⟨before, hcs.symm⟩
    rcases List.suffix_or_suffix_of_suffix htag (List.suffix_append host path) with hwithin | hover
    · exact hpath (hwithin.subset List.mem_cons_self)
    · cases h with
      | slash =>
        rcases List.suffix_cons_iff.mp hover with heq | hover
        · exact absurd (List.cons.inj heq).1 (by decide)
        · exact hslash (hover.subset List.mem_cons_self)
      | bare => exact hpath (htag.subset List.mem_cons_self)

/-- The two ways to find a tag agree where there is none in the path, and where the path has one
    colon with no slash behind it. -/
theorem cutTagOfPath_eq_iff (h : HostPath host path) :
    cutTagOfPath (host ++ path) = cutTagAtEnd (host ++ path) ↔
      ':' ∉ path ∨ ∃ before tag, path = before ++ ':' :: tag ∧ ':' ∉ before ∧ ':' ∉ tag ∧
        '/' ∉ tag := by
  by_cases hcolon : ':' ∈ path
  · obtain ⟨first, rest, rfl, hfirst⟩ := List.eq_append_cons_of_mem hcolon
    rw [cutTagOfPath_of_colon h hfirst]
    constructor
    · intro heq
      rcases cutTagAtEnd_cases (host ++ (first ++ ':' :: rest)) with
        hcut | ⟨before, tag, -, htag, hslash, hcut⟩
      · -- without a tag the whole text would be the image, which the first colon makes shorter
        rw [hcut, Prod.mk.injEq] at heq
        simp at heq
      · obtain ⟨-, rfl⟩ := Prod.mk.inj (heq.trans hcut)
        exact Or.inr ⟨first, rest, rfl, hfirst, htag, hslash⟩
    · rintro (hnone | ⟨before, tag, hpath, hbefore, htag, hslash⟩)
      · exact absurd hcolon hnone
      · have hsame := cutTagOfPath_of_colon (hpath ▸ h) hbefore
        rw [← hpath, cutTagOfPath_of_colon h hfirst] at hsame
        rw [hsame, hpath, ← List.append_assoc, cutTagAtEnd_append_cons _ htag hslash]
  · rw [cutTagOfPath_of_notMem h hcolon, cutTagAtEnd_of_notMem h hcolon]
    exact ⟨fun _ => Or.inl hcolon, fun _ => rfl⟩

/-! ### Digests -/

theorem parse_of_notMem {text : String} (h : '@' ∉ text.toList) :
    parse text = ⟨String.ofList (cutTagAtEnd text.toList).1,
      String.ofList (cutTagAtEnd text.toList).2, ""⟩ := by
  rw [parse, cutFirst_eq_none_iff.mpr h]

theorem parse_append_at {named : String} (h : '@' ∉ named.toList) (digest : String) :
    parse (named ++ "@" ++ digest) = ⟨String.ofList (cutTagOfPath named.toList).1,
      String.ofList (cutTagOfPath named.toList).2, digest⟩ := by
  have hcut : cutFirst '@' (named ++ "@" ++ digest).toList =
      some (named.toList, digest.toList) := by
    rw [String.toList_append, String.toList_append, List.append_assoc]
    exact cutFirst_append_cons h digest.toList
  rw [parse, hcut]
  simp only [String.ofList_toList]

theorem exists_named_of_mem {text : String} (h : '@' ∈ text.toList) :
    ∃ named digest : String, text = named ++ "@" ++ digest ∧ '@' ∉ named.toList := by
  obtain ⟨named, digest, htext, hnamed⟩ := List.eq_append_cons_of_mem h
  refine ⟨String.ofList named, String.ofList digest, ?_, by rwa [String.toList_ofList]⟩
  rw [← String.toList_inj, htext]
  simp

theorem Named.eq {text : String} {parts : List Char × List Char} (h : Named text.toList parts) :
    text = String.ofList parts.1 ∧ String.ofList parts.2 = "" ∨
      text = String.ofList parts.1 ++ ":" ++ String.ofList parts.2 := by
  cases h with
  | untagged => exact Or.inl ⟨String.ofList_toList.symm, rfl⟩
  | tagged htext =>
    refine Or.inr ?_
    rw [← String.toList_inj, htext]
    simp

/-! ### Parts and texts -/

/-- Parts that can be told apart in the text of an image: colons of the URL stand before its first
    slash. -/
structure WellFormed (image : ImageReference) : Prop where
  url : '@' ∉ image.url.toList
  ports : ':' ∉ pathPart image.url.toList
  tag : ∀ c ∈ ['@', ':', '/'], c ∉ image.tag.toList

/-- The URL and the tag of an image, without its digest. -/
def named (image : ImageReference) : String :=
  image.url ++ if image.tag = "" then "" else ":" ++ image.tag

theorem render_eq (image : ImageReference) :
    image.render = if image.digest = "" then image.named
      else image.named ++ "@" ++ image.digest := by
  unfold render named
  by_cases hdigest : image.digest = ""
  · rw [if_pos hdigest, if_pos hdigest, String.append_empty]
  · rw [if_neg hdigest, if_neg hdigest]
    exact String.append_assoc.symm

variable {image : ImageReference}

theorem WellFormed.notMem_named (h : image.WellFormed) : '@' ∉ image.named.toList := by
  have htag := h.tag '@' (by simp)
  unfold named
  split <;> simp [h.url, htag]

theorem WellFormed.exists_hostPath (h : image.WellFormed) :
    ∃ host path, image.url.toList = host ++ path ∧ HostPath host path ∧ ':' ∉ path := by
  obtain ⟨host, path, hurl, hpath⟩ := ImageReference.exists_hostPath image.url.toList
  have hports := h.ports
  rw [hurl, hpath.pathPart_append] at hports
  exact ⟨host, path, hurl, hpath, hports⟩

theorem named_of_tag (htag : image.tag ≠ "") :
    image.named.toList = image.url.toList ++ ':' :: image.tag.toList := by
  rw [named, if_neg htag]
  simp

theorem WellFormed.cutTagOfPath_named (h : image.WellFormed) :
    cutTagOfPath image.named.toList = (image.url.toList, image.tag.toList) := by
  obtain ⟨host, path, hurl, hpath, hports⟩ := h.exists_hostPath
  by_cases htag : image.tag = ""
  · rw [named, if_pos htag, String.append_empty, htag, hurl, cutTagOfPath_of_notMem hpath hports]
    rfl
  · -- the tag has no slash, so it does not move the place where the path begins
    have htagged : HostPath host (path ++ ':' :: image.tag.toList) := by
      cases hpath with
      | slash hhost => exact .slash hhost
      | bare hslash => exact .bare (by simp [hslash, h.tag '/'])
    rw [named_of_tag htag, hurl, List.append_assoc, cutTagOfPath_of_colon htagged hports]

theorem WellFormed.cutTagAtEnd_named (h : image.WellFormed) :
    cutTagAtEnd image.named.toList = (image.url.toList, image.tag.toList) := by
  by_cases htag : image.tag = ""
  · obtain ⟨host, path, hurl, hpath, hports⟩ := h.exists_hostPath
    rw [named, if_pos htag, String.append_empty, htag, hurl, cutTagAtEnd_of_notMem hpath hports]
    rfl
  · rw [named_of_tag htag, cutTagAtEnd_append_cons _ (h.tag ':' (by simp)) (h.tag '/' (by simp))]

theorem WellFormed.parse_render (h : image.WellFormed) : parse image.render = image := by
  rw [render_eq]
  split
  · next hdigest =>
    rw [parse_of_notMem h.notMem_named, h.cutTagAtEnd_named]
    simp only [String.ofList_toList, ← hdigest]
  · rw [parse_append_at h.notMem_named, h.cutTagOfPath_named]
    simp only [String.ofList_toList]

/-- **Parsing takes the text of an image apart and loses nothing of it.**  Well-formed parts are
    found again in the text that is made of them.  Every text is made of the parts that are found
    in it, and one of them is a digest exactly if the text has an `@`. -/
theorem parse_roundTrip :
    (∀ image : ImageReference, image.WellFormed → parse image.render = image) ∧
    ∀ text : String,
      ('@' ∉ text.toList → (parse text).digest = "" ∧
        (text = (parse text).url ∧ (parse text).tag = "" ∨
          text = (parse text).url ++ ":" ++ (parse text).tag)) ∧
      ('@' ∈ text.toList →
        text = (parse text).url ++ "@" ++ (parse text).digest ∧ (parse text).tag = "" ∨
          text = (parse text).url ++ ":" ++ (parse text).tag ++ "@" ++ (parse text).digest) := by
  refine ⟨fun image h => h.parse_render, fun text => ⟨fun hnone => ?_, fun hdigest => ?_⟩⟩
  · rw [parse_of_notMem hnone]
    exact ⟨rfl, (named_cutTagAtEnd text.toList).eq⟩
  · obtain ⟨named, digest, rfl, hnamed⟩ := exists_named_of_mem hdigest
    rw [parse_append_at hnamed]
    rcases (named_cutTagOfPath named.toList).eq with ⟨hurl, htag⟩ | hurl
    · exact Or.inl ⟨congrArg (· ++ "@" ++ digest) hurl, htag⟩
    · exact Or.inr (congrArg (· ++ "@" ++ digest) hurl)

/-- A port, a tag, and a digest with colons and an `@` in it; and a text whose tag has a slash. -/
theorem parse_roundTrip_port :
    let image : ImageReference := ⟨"localhost:5000/app", "v1", "sha256:a@b"⟩
    let text := "localhost:5000/a:b/c@"
    image.WellFormed ∧ parse "localhost:5000/app:v1@sha256:a@b" = image ∧
      '@' ∈ text.toList ∧ (parse text).tag = "b/c" ∧
      text = (parse text).url ++ ":" ++ (parse text).tag ++ "@" ++ (parse text).digest := by
  intro image text
  have hformed : image.WellFormed := ⟨by decide, by decide, by simp [image]⟩
  have hdigest : '@' ∈ text.toList := by decide
  have htag : (parse text).tag = "b/c" := by decide
  refine ⟨hformed, parse_roundTrip.1 image hformed, hdigest, htag, ?_⟩
  rcases (parse_roundTrip.2 text).2 hdigest with ⟨-, hnone⟩ | htext
  · rw [htag] at hnone
    exact absurd hnone (by decide)
  · exact htext

/-- An image without a digest has the same URL and tag with one exactly if no colon is left in it
    from its first slash on, or one that has no slash behind it. -/
theorem parse_pinned_iff {text : String} (h : '@' ∉ text.toList) (digest : String) :
    ((parse (text ++ "@" ++ digest)).url = (parse text).url ∧
      (parse (text ++ "@" ++ digest)).tag = (parse text).tag) ↔
    ':' ∉ pathPart text.toList ∨
      ∃ before tag, pathPart text.toList = before ++ ':' :: tag ∧ ':' ∉ before ∧ ':' ∉ tag ∧
        '/' ∉ tag := by
  obtain ⟨host, path, htext, hpath⟩ := exists_hostPath text.toList
  rw [parse_append_at h, parse_of_notMem h]
  simp only [String.ofList_inj]
  rw [← Prod.ext_iff, htext, hpath.pathPart_append, cutTagOfPath_eq_iff hpath]

/-- One colon in the path, and one in the host. -/
theorem parse_pinned_iff_port :
    '@' ∉ "localhost:5000/app:1.0".toList ∧
      (parse ("localhost:5000/app:1.0" ++ "@" ++ "sha256:abc")).url =
        (parse "localhost:5000/app:1.0").url ∧
      (parse ("localhost:5000/app:1.0" ++ "@" ++ "sha256:abc")).tag =
        (parse "localhost:5000/app:1.0").tag := by
  have hnone : '@' ∉ "localhost:5000/app:1.0".toList := by decide
  have hpath : pathPart "localhost:5000/app:1.0".toList =
      "/app".toList ++ ':' :: "1.0".toList := by decide
  exact ⟨hnone, (parse_pinned_iff hnone "sha256:abc").mpr
    (Or.inr ⟨_, _, hpath, by decide, by decide, by decide⟩)⟩

example : (parse "app:1.0:2").tag = "2" ∧ (parse "app:1.0:2@sha256:abc").tag = "1.0:2" := by decide

end ImageReference

end ImageFreshness
