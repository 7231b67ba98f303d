import ImageFreshness.Image.Location

/-!
# Image locations written out

The location of an image is written out as its host and its name.  This text is a URL of the image
once more, and where no segment is empty it leads to the same location, so that locations can be
compared by it.  The spellings that leave out the default registry or its repository for official
images lead to one location (`ImageLocation.ofUrl_canonical`).
-/

namespace ImageFreshness

open Text

namespace ImageLocation

/-! ### Segments -/

def segments (url : String) : List String := (url.toList.splitOn '/').map String.ofList

theorem segments_append (front rest : String) :
    segments (front ++ "/" ++ rest) = segments front ++ segments rest := by
  have hslash : (front ++ "/" ++ rest).toList = front.toList ++ '/' :: rest.toList := by simp
  rw [segments, hslash, List.splitOn_append_cons_self, List.map_append]
  rfl

theorem segments_of_notMem {segment : String} (h : '/' ∉ segment.toList) :
    segments segment = [segment] := by
  rw [segments, List.splitOn_eq_singleton h, List.map_singleton, String.ofList_toList]

theorem segments_ne_nil (url : String) : segments url ≠ [] := by
  simp [segments, List.splitOn_ne_nil]

theorem eq_append_of_toList {url : String} {first rest : List Char}
    (h : url.toList = first ++ '/' :: rest) :
    url = String.ofList first ++ "/" ++ String.ofList rest := by
  rw [← String.toList_inj, h]
  simp

/-- A URL is one segment, or a first segment and another URL. -/
theorem url_cases (url : String) :
    '/' ∉ url.toList ∨ ∃ first rest : String, url = first ++ "/" ++ rest ∧ '/' ∉ first.toList := by
  cases hcut : cutFirst '/' url.toList with
  | none => exact Or.inl (cutFirst_eq_none_iff.mp hcut)
  | some parts =>
    obtain ⟨hurl, hfirst⟩ := cutFirst_eq_some_iff.mp hcut
    refine Or.inr ⟨_, _, eq_append_of_toList hurl, ?_⟩
    rwa [String.toList_ofList]

/-- A path is one segment, or another path and its last segment. -/
theorem path_cases (path : String) :
    '/' ∉ path.toList ∨
      ∃ repo image : String, path = repo ++ "/" ++ image ∧ '/' ∉ image.toList := by
  cases hcut : cutLast '/' path.toList with
  | none => exact Or.inl (cutLast_eq_none_iff.mp hcut)
  | some parts =>
    obtain ⟨hpath, himage⟩ := cutLast_eq_some_iff.mp hcut
    refine Or.inr ⟨_, _, eq_append_of_toList hpath, ?_⟩
    rwa [String.toList_ofList]

/-! ### Hosts -/

/-- A name with a dot or a port, or the local host. -/
def HostLike (host : String) : Prop :=
  '.' ∈ host.toList ∨ ':' ∈ host.toList ∨ host = "localhost"

instance (host : String) : Decidable (HostLike host) :=
  inferInstanceAs (Decidable (_ ∨ _ ∨ _))

theorem isHost_iff {host : String} : isHost host.toList = true ↔ HostLike host := by
  simp only [isHost, HostLike, Bool.or_eq_true, decide_eq_true_eq, String.toList_inj, or_assoc]

theorem hostLike_defaultHost : HostLike defaultHost := Or.inl (by decide)

theorem slash_notMem_defaultHost : '/' ∉ defaultHost.toList := by decide

/-- The image with this path on a registry. -/
def onHost (host path : String) : ImageLocation :=
  match cutLast '/' path.toList with
  | some (repo, image) => ⟨host, String.ofList repo, String.ofList image⟩
  | none => ⟨host, if host = defaultHost then officialRepo else "", path⟩

theorem onHost_append (host repo : String) {image : String} (h : '/' ∉ image.toList) :
    onHost host (repo ++ "/" ++ image) = ⟨host, repo, image⟩ := by
  have hcut : cutLast '/' (repo ++ "/" ++ image).toList = some (repo.toList, image.toList) := by
    refine cutLast_eq_some_iff.mpr ⟨by simp, h⟩
  rw [onHost, hcut]
  simp only [String.ofList_toList]

theorem onHost_of_notMem (host : String) {image : String} (h : '/' ∉ image.toList) :
    onHost host image = ⟨host, if host = defaultHost then officialRepo else "", image⟩ := by
  rw [onHost, cutLast_eq_none_iff.mpr h]

theorem onHost_host (host path : String) : (onHost host path).host = host := by
  unfold onHost
  split <;> rfl

theorem ofUrl_eq (url : String) :
    ofUrl url = onHost (String.ofList (splitHost url.toList).1)
      (String.ofList (splitHost url.toList).2) := by
  unfold ofUrl onHost
  obtain ⟨host, path⟩ := splitHost url.toList
  have hdefault : String.ofList host = defaultHost ↔ host = defaultHost.toList := by
    rw [← String.toList_inj, String.toList_ofList]
  dsimp only
  rw [String.toList_ofList]
  cases cutLast '/' path with
  | none => simp only [hdefault]
  | some parts => rfl

theorem ofUrl_of_notMem {image : String} (h : '/' ∉ image.toList) :
    ofUrl image = onHost defaultHost image := by
  have hsplit : splitHost image.toList = (defaultHost.toList, image.toList) := by
    rw [splitHost, cutFirst_eq_none_iff.mpr h]
  rw [ofUrl_eq, hsplit, String.ofList_toList, String.ofList_toList]

/-- The first of several segments is the registry if it looks like one. -/
theorem ofUrl_append {first : String} (h : '/' ∉ first.toList) (path : String) :
    ofUrl (first ++ "/" ++ path) =
      if HostLike first then onHost first path else onHost defaultHost (first ++ "/" ++ path) := by
  have hcut : cutFirst '/' (first ++ "/" ++ path).toList = some (first.toList, path.toList) := by
    refine cutFirst_eq_some_iff.mpr ⟨by simp, h⟩
  rw [ofUrl_eq, splitHost, hcut]
  simp only [isHost_iff]
  split <;> simp only [String.ofList_toList]

/-- A URL without an empty segment is a path without an empty one on some host. -/
theorem exists_ofUrl_eq {url : String} (h : "" ∉ segments url) :
    ∃ host path, HostLike host ∧ '/' ∉ host.toList ∧ "" ∉ segments path ∧
      (segments path).getLast? = (segments url).getLast? ∧ ofUrl url = onHost host path := by
  rcases url_cases url with hslash | ⟨first, path, rfl, hslash⟩
  · exact ⟨defaultHost, url, hostLike_defaultHost, slash_notMem_defaultHost, h, rfl,
      ofUrl_of_notMem hslash⟩
  · rw [ofUrl_append hslash]
    by_cases hfirst : HostLike first
    · rw [if_pos hfirst]
      rw [segments_append] at h ⊢
      have hlast := List.getLast?_eq_some_getLast (segments_ne_nil path)
      refine ⟨first, path, hfirst, hslash, fun hpath => h (List.mem_append_right _ hpath), ?_, rfl⟩
      rw [List.getLast?_append, hlast, Option.some_or]
    · rw [if_neg hfirst]
      exact ⟨defaultHost, _, hostLike_defaultHost, slash_notMem_defaultHost, h, rfl, rfl⟩

/-! ### Locations written out -/

/-- The host and the name of a location. -/
def fullName (location : ImageLocation) : String := location.host ++ "/" ++ location.name

theorem fullName_of_repo (host image : String) {repo : String} (h : repo ≠ "") :
    fullName ⟨host, repo, image⟩ = host ++ "/" ++ (repo ++ "/" ++ image) := by
  simp only [fullName, name, if_neg h]

theorem onHost_image (host path : String) :
    (segments path).getLast? = some (onHost host path).image ∧
      '/' ∉ (onHost host path).image.toList := by
  rcases path_cases path with hpath | ⟨repo, image, rfl, himage⟩
  · rw [onHost_of_notMem host hpath, segments_of_notMem hpath]
    exact ⟨rfl, hpath⟩
  · rw [onHost_append host repo himage, segments_append, segments_of_notMem himage]
    exact ⟨List.getLast?_concat, himage⟩

/-- A location that is written out is found again. -/
theorem ofUrl_fullName {host path : String} (hhost : HostLike host) (hslash : '/' ∉ host.toList)
    (hpath : "" ∉ segments path) :
    ofUrl (onHost host path).fullName = onHost host path := by
  rcases path_cases path with hsingle | ⟨repo, image, rfl, himage⟩
  · rw [onHost_of_notMem host hsingle]
    by_cases hdefault : host = defaultHost
    · subst hdefault
      rw [if_pos rfl, fullName_of_repo _ _ (by decide), ofUrl_append hslash, if_pos hhost,
        onHost_append _ _ hsingle]
    · rw [if_neg hdefault]
      have hname : fullName ⟨host, "", path⟩ = host ++ "/" ++ path := rfl
      rw [hname, ofUrl_append hslash, if_pos hhost, onHost_of_notMem host hsingle,
        if_neg hdefault]
  · have hrepo : repo ≠ "" := by
      rintro rfl
      refine hpath ?_
      rw [segments_append]
      exact List.mem_append_left _ List.mem_cons_self
    rw [onHost_append host repo himage, fullName_of_repo _ _ hrepo, ofUrl_append hslash,
      if_pos hhost, onHost_append host repo himage]

theorem ofUrl_fullName_ofUrl {url : String} (h : "" ∉ segments url) :
    ofUrl (ofUrl url).fullName = ofUrl url := by
  obtain ⟨host, path, hhost, hslash, hpath, -, hurl⟩ := exists_ofUrl_eq h
  rw [hurl, ofUrl_fullName hhost hslash hpath]

/-! ### Spellings of the default registry -/

theorem ofUrl_defaultHost_append (path : String) :
    ofUrl (defaultHost ++ "/" ++ path) = onHost defaultHost path := by
  rw [ofUrl_append slash_notMem_defaultHost, if_pos hostLike_defaultHost]

theorem onHost_official {image : String} (h : '/' ∉ image.toList) :
    onHost defaultHost (officialRepo ++ "/" ++ image) = onHost defaultHost image := by
  rw [onHost_append _ _ h, onHost_of_notMem _ h, if_pos rfl]

theorem ofUrl_official {image : String} (h : '/' ∉ image.toList) :
    ofUrl (officialRepo ++ "/" ++ image) = ofUrl image := by
  rw [ofUrl_append (by decide), if_neg (by decide), onHost_official h, ofUrl_of_notMem h]

/-- The default registry may be left out before a path that names none. -/
theorem ofUrl_of_not_hostLike {path : String}
    (h : ∀ first, (segments path).head? = some first → ¬ HostLike first) :
    ofUrl path = onHost defaultHost path := by
  rcases url_cases path with hslash | ⟨first, rest, rfl, hslash⟩
  · exact ofUrl_of_notMem hslash
  · have hfirst : ¬ HostLike first := by
      refine h first ?_
      rw [segments_append, segments_of_notMem hslash]
      rfl
    rw [ofUrl_append hslash, if_neg hfirst]

/-- **Writing out the location of a URL makes its spelling canonical.**  Where no segment is empty,
    the last one is the image, the host looks like one, and the location that is written out is
    found again.  So two URLs have one location if and only if it is written out alike.  An
    official image has four spellings, and any path that names no host has two. -/
theorem ofUrl_canonical :
    (∀ url, "" ∉ segments url →
      (segments url).getLast? = some (ofUrl url).image ∧ '/' ∉ (ofUrl url).image.toList ∧
        HostLike (ofUrl url).host ∧ '/' ∉ (ofUrl url).host.toList ∧
        ofUrl ((ofUrl url).host ++ "/" ++ (ofUrl url).name) = ofUrl url) ∧
    (∀ url url', "" ∉ segments url → "" ∉ segments url' →
      (ofUrl url = ofUrl url' ↔ (ofUrl url).host ++ "/" ++ (ofUrl url).name =
        (ofUrl url').host ++ "/" ++ (ofUrl url').name)) ∧
    (∀ image : String, '/' ∉ image.toList →
      ofUrl ("library/" ++ image) = ofUrl image ∧ ofUrl ("docker.io/" ++ image) = ofUrl image ∧
        ofUrl ("docker.io/library/" ++ image) = ofUrl image) ∧
    (∀ path, (∀ first, (segments path).head? = some first → ¬ HostLike first) →
      ofUrl ("docker.io/" ++ path) = ofUrl path) := by
  refine ⟨fun url h => ?_, fun url url' h h' => ?_, fun image himage => ?_, fun path h => ?_⟩
  · obtain ⟨host, path, hhost, hslash, hpath, hlast, hurl⟩ := exists_ofUrl_eq h
    obtain ⟨himage, himageSlash⟩ := onHost_image host path
    rw [hurl, ← hlast]
    refine ⟨himage, himageSlash, ?_, ?_, ofUrl_fullName hhost hslash hpath⟩
    · rwa [onHost_host]
    · rwa [onHost_host]
  · refine ⟨fun heq => by rw [heq], fun heq => ?_⟩
    calc ofUrl url = ofUrl (ofUrl url).fullName := (ofUrl_fullName_ofUrl h).symm
      _ = ofUrl (ofUrl url').fullName := congrArg ofUrl heq
      _ = ofUrl url' := ofUrl_fullName_ofUrl h'
  · have hdefault : "docker.io/" = defaultHost ++ "/" := by decide
    have hofficial : "library/" = officialRepo ++ "/" := by decide
    have hboth : "docker.io/library/" ++ image =
        defaultHost ++ "/" ++ (officialRepo ++ "/" ++ image) := by
      simp only [← String.append_assoc]
      exact congrArg (· ++ image) (by decide)
    rw [hboth, hdefault, hofficial, ofUrl_defaultHost_append, ofUrl_defaultHost_append,
      onHost_official himage, ofUrl_official himage, ofUrl_of_notMem himage]
    exact ⟨rfl, rfl, rfl⟩
  · have hdefault : "docker.io/" = defaultHost ++ "/" := by decide
    rw [hdefault, ofUrl_defaultHost_append, ofUrl_of_not_hostLike h]

/-- A port and a single segment; the image of a team and an official one with a dot in its name. -/
theorem ofUrl_canonical_spellings :
    "" ∉ segments "localhost:5000/app" ∧
      ofUrl "localhost:5000/app" = ⟨"localhost:5000", "", "app"⟩ ∧
      ofUrl "localhost:5000/app" =
        ofUrl ((ofUrl "localhost:5000/app").host ++ "/" ++ (ofUrl "localhost:5000/app").name) ∧
      '/' ∉ "node.js".toList ∧ ofUrl "docker.io/library/node.js" = ofUrl "node.js" ∧
      (∀ first, (segments "org/team/app").head? = some first → ¬ HostLike first) ∧
      ofUrl "docker.io/org/team/app" = ofUrl "org/team/app" ∧
      (ofUrl "docker.io/node.js" = ofUrl "library/node.js" ↔
        (ofUrl "docker.io/node.js").host ++ "/" ++ (ofUrl "docker.io/node.js").name =
          (ofUrl "library/node.js").host ++ "/" ++ (ofUrl "library/node.js").name) := by
  obtain ⟨hurl, heq, hofficial, hpath⟩ := ofUrl_canonical
  have hport : "" ∉ segments "localhost:5000/app" := by decide
  have himage : '/' ∉ "node.js".toList := by decide
  have hteam : ∀ first, (segments "org/team/app").head? = some first → ¬ HostLike first := by
    intro first hfirst
    obtain rfl : "org" = first := Option.some.inj hfirst
    decide
  exact ⟨hport, by decide, (hurl _ hport).2.2.2.2.symm, himage, (hofficial _ himage).2.2, hteam,
    hpath _ hteam, heq _ _ (by decide) (by decide)⟩

end ImageLocation

end ImageFreshness
