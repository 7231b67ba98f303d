import ImageFreshness.Config.File
import ImageFreshness.Proofs.JsonTokens
import ImageFreshness.Proofs.RecordReading

/-!
# Configuration files as overlays

A file gives some settings (`Config.Settings`), each at most once, in any order and among any other
members.  `Config.Settings.WrittenIn` tells which texts give which settings, and
`Config.load_overlay` that loading such a text lays the settings over the defaults: what is not
given keeps its default, also where its section is given.
-/

namespace ImageFreshness

open Json

/-! ### Settings -/

structure CacheConfig.Settings where
  timeout : Option Nat
  sweepInterval : Option Nat

structure RegistryConfig.Settings where
  insecureHosts : Option (List String)
  userAgent : Option String

/-- What a file gives of a configuration. -/
structure Config.Settings where
  cache : Option CacheConfig.Settings
  registry : Option RegistryConfig.Settings
  testAllContainers : Option Bool

/-- The configuration with the given values in place of its own. -/
def CacheConfig.Settings.over (given : CacheConfig.Settings) (c : CacheConfig) : CacheConfig :=
  ⟨given.timeout.getD c.timeout, given.sweepInterval.getD c.sweepInterval⟩

def RegistryConfig.Settings.over (given : RegistryConfig.Settings) (c : RegistryConfig) :
    RegistryConfig :=
  ⟨given.insecureHosts.getD c.insecureHosts, given.userAgent.getD c.userAgent⟩

/-- The configuration with the given values in place of its own, section by section. -/
def Config.Settings.over (given : Config.Settings) (c : Config) : Config where
  cache := given.cache.elim c.cache fun cache => cache.over c.cache
  registry := given.registry.elim c.registry fun registry => registry.over c.registry
  testAllContainers := given.testAllContainers.getD c.testAllContainers

/-! ### Written settings -/

/-- The objects that give these settings.  Their other members may be any values. -/
inductive CacheConfig.Settings.WrittenAs (given : CacheConfig.Settings) : List Token → Prop where
  | object {members : List (String × List Token)} :
      Gives members "timeout" (fun n tokens => tokens = [.number (.ok (.unsigned n))])
        given.timeout →
      Gives members "gcInterval" (fun n tokens => tokens = [.number (.ok (.unsigned n))])
        given.sweepInterval →
      (∀ m ∈ members, m.1 ∉ ["timeout", "gcInterval"] → IsValue m.2) →
      WrittenAs given (objectTokens members)

/-- The objects that give these settings.  Their other members may be any values. -/
inductive RegistryConfig.Settings.WrittenAs (given : RegistryConfig.Settings) :
    List Token → Prop where
  | object {members : List (String × List Token)} :
      Gives members "insecureHosts" (fun hosts tokens => tokens = Reader.stringsTokens hosts)
        given.insecureHosts →
      Gives members "userAgent" (fun s tokens => tokens = [.string (.ok s)]) given.userAgent →
      (∀ m ∈ members, m.1 ∉ ["insecureHosts", "userAgent"] → IsValue m.2) →
      WrittenAs given (objectTokens members)

/-- The objects that give these settings.  Their other members may be any values. -/
inductive Config.Settings.WrittenAs (given : Config.Settings) : List Token → Prop where
  | object {members : List (String × List Token)} :
      Gives members "cache" CacheConfig.Settings.WrittenAs given.cache →
      Gives members "registry" RegistryConfig.Settings.WrittenAs given.registry →
      Gives members "testAllContainers" (fun b tokens => tokens = [.bool b])
        given.testAllContainers →
      (∀ m ∈ members, m.1 ∉ ["cache", "registry", "testAllContainers"] → IsValue m.2) →
      WrittenAs given (objectTokens members)

/-- The texts that give these settings. -/
def Config.Settings.WrittenIn (given : Config.Settings) (text : String) : Prop :=
  ∃ tokens, given.WrittenAs tokens ∧ Shown tokens text.toList

/-! ### Reading them -/

namespace CacheConfig

def parts : List (Reader.Part CacheConfig) := [
  ⟨"timeout", false, .unsigned, timeout, fun c ms => { c with timeout := ms }, fun _ _ => rfl⟩,
  ⟨"gcInterval", false, .unsigned, sweepInterval, fun c ms => { c with sweepInterval := ms },
    fun _ _ => rfl⟩]

theorem parts_isMadeOf : Reader.IsMadeOf parts where
  names := by decide
  get_set_of_ne := by simp [parts]
  ext := by
    rintro ⟨timeout, sweepInterval⟩ ⟨timeout', sweepInterval'⟩ h
    simpa [parts] using h

theorem Settings.WrittenAs.takes {given : Settings} {tokens : List Token}
    (h : given.WrittenAs tokens) : reader.Takes tokens (given.over .default) := by
  obtain @⟨members, htimeout, hinterval, hunknown⟩ := h
  have hfills : ∀ p ∈ parts, p.Fills (given.over .default) [] .default members := by
    simp only [parts, List.forall_mem_cons]
    refine ⟨.of_gives_self htimeout rfl rfl ?_, .of_gives_self hinterval rfl rfl ?_, by simp⟩
    · rintro n _ rfl
      exact Reader.unsigned_takes n
    · rintro n _ rfl
      exact Reader.unsigned_takes n
  have hcompletes : Reader.Completes parts (given.over .default) [] .default members :=
    ⟨hfills, hunknown⟩
  exact hcompletes.takes parts_isMadeOf

end CacheConfig

namespace RegistryConfig

def parts : List (Reader.Part RegistryConfig) := [
  ⟨"insecureHosts", false, .strings, insecureHosts,
    fun c hosts => { c with insecureHosts := hosts }, fun _ _ => rfl⟩,
  ⟨"userAgent", false, .string, userAgent, fun c s => { c with userAgent := s }, fun _ _ => rfl⟩]

theorem parts_isMadeOf : Reader.IsMadeOf parts where
  names := by decide
  get_set_of_ne := by simp [parts]
  ext := by
    rintro ⟨insecureHosts, userAgent⟩ ⟨insecureHosts', userAgent'⟩ h
    simpa [parts] using h

theorem Settings.WrittenAs.takes {given : Settings} {tokens : List Token}
    (h : given.WrittenAs tokens) : reader.Takes tokens (given.over .default) := by
  obtain @⟨members, hhosts, hagent, hunknown⟩ := h
  have hfills : ∀ p ∈ parts, p.Fills (given.over .default) [] .default members := by
    simp only [parts, List.forall_mem_cons]
    refine ⟨.of_gives_self hhosts rfl rfl ?_, .of_gives_self hagent rfl rfl ?_, by simp⟩
    · rintro hosts _ rfl
      exact Reader.strings_takes hosts
    · rintro s _ rfl
      exact Reader.string_takes s
  have hcompletes : Reader.Completes parts (given.over .default) [] .default members :=
    ⟨hfills, hunknown⟩
  exact hcompletes.takes parts_isMadeOf

end RegistryConfig

namespace Config

def parts : List (Reader.Part Config) := [
  ⟨"cache", false, CacheConfig.reader, cache, fun c cache => { c with cache := cache },
    fun _ _ => rfl⟩,
  ⟨"registry", false, RegistryConfig.reader, registry,
    fun c registry => { c with registry := registry }, fun _ _ => rfl⟩,
  ⟨"testAllContainers", false, .bool, testAllContainers,
    fun c b => { c with testAllContainers := b }, fun _ _ => rfl⟩]

theorem parts_isMadeOf : Reader.IsMadeOf parts where
  names := by decide
  get_set_of_ne := by simp [parts]
  ext := by
    rintro ⟨cache, registry, testAll⟩ ⟨cache', registry', testAll'⟩ h
    simpa [parts] using h

variable {given : Settings} {text : String}

theorem Settings.WrittenAs.takes {tokens : List Token} (h : given.WrittenAs tokens) :
    reader.Takes tokens (given.over .default) := by
  obtain @⟨members, hcache, hregistry, htestAll, hunknown⟩ := h
  have hfills : ∀ p ∈ parts, p.Fills (given.over .default) [] .default members := by
    simp only [parts, List.forall_mem_cons]
    refine ⟨.of_gives hcache rfl rfl ?_, .of_gives hregistry rfl rfl ?_,
      .of_gives_self htestAll rfl rfl ?_, by simp⟩
    · exact fun _ _ hsection => hsection.takes
    · exact fun _ _ hsection => hsection.takes
    · rintro b _ rfl
      exact Reader.bool_takes b
  have hcompletes : Reader.Completes parts (given.over .default) [] .default members :=
    ⟨hfills, hunknown⟩
  exact hcompletes.takes parts_isMadeOf

theorem Settings.WrittenIn.run (h : given.WrittenIn text) :
    reader.run text = .ok (given.over .default) := by
  obtain ⟨tokens, hwritten, hshown⟩ := h
  exact hwritten.takes.run hshown.lex

theorem load_of_writtenIn (h : given.WrittenIn text) :
    load (some (.ok text.toUTF8)) =
      if (given.over .default).cache.sweepInterval = 0 then .error .zeroInterval
      else .ok (given.over .default) := by
  simp only [load, readText_toUTF8, h.run]

/-- What is loaded has passed the check, wherever it is from. -/
theorem sweepInterval_pos_of_load {file : Option (Except ReadFault ByteArray)} {config : Config}
    (h : load file = .ok config) : 0 < config.cache.sweepInterval := by
  cases file with
  | none =>
    cases h
    decide
  | some file =>
    simp only [load] at h
    split at h
    · cases h
    · split at h
      · cases h
      · split at h
        · cases h
        · next hinterval =>
          obtain rfl := Except.ok.inj h
          exact Nat.pos_of_ne_zero hinterval

/-- Loading lays what a file gives over the defaults and refuses a sweep interval of zero.  How and
    in which order the file gives it does not matter, nor what else is in the file. -/
theorem load_overlay :
    (∀ (given : Settings) (text : String), given.WrittenIn text →
      load (some (.ok text.toUTF8)) =
        if (given.over .default).cache.sweepInterval = 0 then .error .zeroInterval
        else .ok (given.over .default)) ∧
    (∀ (given : Settings) (text text' : String), given.WrittenIn text → given.WrittenIn text' →
      load (some (.ok text.toUTF8)) = load (some (.ok text'.toUTF8))) ∧
    load none = .ok .default ∧
    ∀ (file : Option (Except ReadFault ByteArray)) (config : Config), load file = .ok config →
      0 < config.cache.sweepInterval := by
  refine ⟨?_, ?_, rfl, ?_⟩
  · intro given text h
    exact load_of_writtenIn h
  · intro given text text' h h'
    rw [load_of_writtenIn h, load_of_writtenIn h']
  · intro file config h
    exact sweepInterval_pos_of_load h

/-- Settings in an order of their own.  Among them stand a number that is too large, half of a
    surrogate pair, and a member that is no setting of the section it is in. -/
def scatteredText : String :=
  "\x7b\"x\":[1e999, \x7b\"\\udc00\":null\x7d],\"testAllContainers\":true,\n" ++
    "\"cache\":\x7b\"userAgent\":-0,\"gc\\u0049nterval\":5\x7d\x7d"

def scatteredSettings : Settings := ⟨some ⟨none, some 5⟩, none, some true⟩

/-- The members of its one section. -/
def scatteredCache : List (String × List Token) := [
  ("userAgent", [.number (.ok (.real ['-', '0']))]),
  ("gcInterval", [.number (.ok (.unsigned 5))])]

def scatteredMembers : List (String × List Token) := [
  ("x", .openBracket :: elements .closeBracket [
    [.number (.error .malformed)],
    .openBrace :: elements .closeBrace [[.string (.error .malformed), .colon, .null]]]),
  ("testAllContainers", [.bool true]),
  ("cache", objectTokens scatteredCache)]

theorem scatteredCache_writtenAs :
    CacheConfig.Settings.WrittenAs ⟨none, some 5⟩ (objectTokens scatteredCache) := by
  constructor
  · exact ⟨by decide, by simp [scatteredCache], fun _ => rfl⟩
  · exact ⟨by decide, by simp [scatteredCache], by simp [scatteredCache]⟩
  · simp only [scatteredCache, List.forall_mem_cons]
    exact ⟨fun _ => .number _, by simp, by simp⟩

theorem scatteredMembers_writtenAs :
    scatteredSettings.WrittenAs (objectTokens scatteredMembers) := by
  have hunpaired : IsValue (.openBrace ::
      elements .closeBrace [[.string (.error .malformed), .colon, .null]]) :=
    @IsValue.object [(.error .malformed, [.null])] (List.forall_mem_singleton.mpr .null)
  constructor
  · refine ⟨by decide, ?_, by simp [scatteredMembers]⟩
    simp only [scatteredMembers, List.forall_mem_cons]
    exact ⟨by simp, by simp, fun _ => ⟨_, rfl, scatteredCache_writtenAs⟩, by simp⟩
  · exact ⟨by decide, by simp [scatteredMembers], fun _ => rfl⟩
  · exact ⟨by decide, by simp [scatteredMembers, scatteredSettings], by simp [scatteredMembers]⟩
  · simp only [scatteredMembers, List.forall_mem_cons]
    refine ⟨fun _ => .array ?_, by simp, by simp, by simp⟩
    exact List.forall_mem_cons.mpr ⟨.number _, List.forall_mem_singleton.mpr hunpaired⟩

theorem scattered_tooLarge : Token.Shows (.number (.error .malformed)) "1e999".toList := by
  have hspells : Lexeme.Spells ⟨false, ['1'], [], false, false, ['9', '9', '9'], true⟩ _ :=
    .mk (.singleton rfl) (fun _ hcons => (List.cons.inj hcons).2.symm) (.none rfl rfl)
      (.unsigned rfl (.inl rfl) rfl ⟨by decide, List.all_eq_true.mp rfl⟩)
  exact .tooLarge hspells rfl

theorem scattered_unpaired : Token.Shows (.string (.error .malformed))
    ('"' :: (['\\', 'u', 'd', 'c', '0', '0'] ++ ['"'])) := by
  apply Token.Shows.unpaired
  · exact .code (n := 0xdc00) rfl .nil
  · intro cs hspells
    cases hspells.readString []

theorem scattered_escaped :
    Token.Spells (.string (.ok "gcInterval")) "\"gc\\u0049nterval\"".toList :=
  have hrest : Json.Spells "nterval".toList "nterval".toList := .of_plain (by decide)
  @Token.Spells.string _ "gc\\u0049nterval".toList
    (.plain (by decide) (by decide) (by decide) (.plain (by decide) (by decide) (by decide)
      (.code (n := 0x49) rfl rfl rfl hrest)))

theorem scatteredMembers_shown : Shown (objectTokens scatteredMembers) scatteredText.toList := by
  have plain {s : String} (h : s.toList.all _ = true) := Token.Shows.spelled (.of_plain (s := s) h)
  have space {c : Char} (hc : Token.isSpace c = true) : ∀ d ∈ [c], Token.isSpace d = true :=
    List.forall_mem_singleton.mpr hc
  have digit (minus : Bool) {d : Char} (hd : d.isDigit = true) :=
    Lexeme.Spells.of_digits minus (.singleton hd) fun _ h => (List.cons.inj h).2.symm
  have htext : scatteredText.toList = (["\x7b", "\"x\"", ":", "[", "1e999", ",", " ", "\x7b",
      "\"\\udc00\"", ":", "null", "\x7d", "]", ",", "\"testAllContainers\"", ":", "true", ",",
      "\n", "\"cache\"", ":", "\x7b", "\"userAgent\"", ":", "-0", ",", "\"gc\\u0049nterval\"", ":",
      "5", "\x7d", "\x7d"].map String.toList).flatten := rfl
  simp only [htext, List.map_cons, List.map_nil, List.flatten_cons, List.flatten_nil]
  -- the member that is no setting
  refine .word (.spelled .openBrace) nofun (.word (plain (by decide)) nofun ?_)
  refine .word (.spelled .colon) nofun (.word (.spelled .openBracket) nofun ?_)
  refine .word scattered_tooLarge (fun _ => Token.Spells.comma.endsNumber trivial _) ?_
  refine .word (.spelled .comma) nofun (.cons (space rfl) (.spelled .openBrace) nofun ?_)
  refine .word scattered_unpaired nofun (.word (.spelled .colon) nofun ?_)
  refine .word (.spelled .null) nofun (.word (.spelled .closeBrace) nofun ?_)
  refine .word (.spelled .closeBracket) nofun (.word (.spelled .comma) nofun ?_)
  refine .word (plain (by decide)) nofun (.word (.spelled .colon) nofun ?_)
  refine .word (.spelled .true) nofun (.word (.spelled .comma) nofun ?_)
  -- the section
  refine .cons (space rfl) (plain (by decide)) nofun (.word (.spelled .colon) nofun ?_)
  refine .word (.spelled .openBrace) nofun (.word (plain (by decide)) nofun ?_)
  refine .word (.spelled .colon) nofun (.word (.spelled (.number (digit true rfl) rfl)) ?_ ?_)
  · exact fun _ => Token.Spells.comma.endsNumber trivial _
  refine .word (.spelled .comma) nofun (.word (.spelled scattered_escaped) nofun ?_)
  refine .word (.spelled .colon) nofun (.word (.spelled (.number (digit false rfl) rfl)) ?_ ?_)
  · exact fun _ => Token.Spells.closeBrace.endsNumber trivial _
  refine .word (.spelled .closeBrace) nofun (.word (.spelled .closeBrace) nofun ?_)
  exact .nil (List.forall_mem_nil _)

theorem scatteredText_writtenIn : scatteredSettings.WrittenIn scatteredText :=
  ⟨_, scatteredMembers_writtenAs, scatteredMembers_shown⟩

theorem load_overlay_scatteredText :
    scatteredSettings.WrittenIn scatteredText ∧
      load (some (.ok scatteredText.toUTF8)) = .ok ⟨⟨1800000, 5⟩, .default, true⟩ := by
  constructor
  · exact scatteredText_writtenIn
  · exact load_overlay.1 scatteredSettings scatteredText scatteredText_writtenIn

end Config

end ImageFreshness
