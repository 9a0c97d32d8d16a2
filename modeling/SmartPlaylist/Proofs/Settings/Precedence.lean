import SmartPlaylist.Settings.Basic
import SmartPlaylist.Proofs.Decimal.Digits
import SmartPlaylist.Proofs.Settings.EnvFile

/-!
# Where settings come from

A variable has the value that the environment gives it, be it a blank one; else that of the first
assignment in the file of the working directory, and else of the first in the program's own file.
A setting has the value of its variable as it stands, or its default where the variable is not set
or blank.  Only the target size can be wrong, and only a bad line in the program's own file is
reported; the assignments before it stand all the same.

## Main definitions

* `Settings.rawValue`, `Settings.givenValue` — the value of a variable, and that of a setting.
* `Settings.TextSetting` — the settings that are texts, with their variables and defaults.
* `Settings.IsTargetSize` — the target size that is given, or else the default.

## Main results

* `Settings.ofEnvironment_eq_ok_iff`, `Settings.ofEnvironment_eq_error_iff` — the settings of an
  environment.
* `Settings.load_precedence` — **where every setting comes from, and what can fail.**
-/

namespace SmartPlaylist.Settings

open EnvFile

variable {env : Environment} {dataDirectory : String}

/-! ### Settings -/

/-- The settings that are texts. -/
inductive TextSetting where
  | database
  | playlistsDirectory
  | clientId
  | clientSecret
  | redirectUri
  | scope
  | serverAddress
  | apiUrl
  | authUrl
  | tokenUrl
  | cacheKey

namespace TextSetting

/-- The variable that a setting is read from. -/
def variableName : TextSetting → String
  | database => "SMARTLISTS_DATABASE"
  | playlistsDirectory => "SMARTLISTS_PLAYLISTS_DIR"
  | clientId => "SPOTIFY_CLIENT_ID"
  | clientSecret => "SPOTIFY_CLIENT_SECRET"
  | redirectUri => "SPOTIFY_REDIRECT_URI"
  | scope => "SPOTIFY_API_AUTH_SCOPE"
  | serverAddress => "SERVER_ADDRESS"
  | apiUrl => "SPOTIFY_API_URL"
  | authUrl => "SPOTIFY_API_AUTH_URL"
  | tokenUrl => "SPOTIFY_API_TOKEN_URL"
  | cacheKey => "SPOTIFY_CACHE_KEY"

/-- What a setting is where nothing is given; some are nothing then. -/
def default (dataDirectory : String) : TextSetting → Option String
  | database => some (Environment.joinPath dataDirectory "spotify.db")
  | playlistsDirectory => some "playlists"
  | scope => some defaultScope
  | serverAddress => some "127.0.0.1:8888"
  | apiUrl => some "https://api.spotify.com/v1"
  | authUrl => some "https://accounts.spotify.com/authorize"
  | tokenUrl => some "https://accounts.spotify.com/api/token"
  | _ => none

/-- What a setting is. -/
def of (s : Settings) : TextSetting → Option String
  | database => some s.database
  | playlistsDirectory => some s.playlistsDirectory
  | clientId => s.clientId
  | clientSecret => s.clientSecret
  | redirectUri => s.redirectUri
  | scope => some s.scope
  | serverAddress => some s.serverAddress
  | apiUrl => some s.apiUrl
  | authUrl => some s.authUrl
  | tokenUrl => some s.tokenUrl
  | cacheKey => s.cacheKey

theorem isName_variableName (x : TextSetting) : Environment.IsName x.variableName := by
  cases x <;> decide

end TextSetting

/-- There are no other settings than these texts, the target size and the policy. -/
theorem eq_of_texts {s s' : Settings} (hsize : s.targetSize = s'.targetSize)
    (hpolicy : s.unresolved = s'.unresolved)
    (htexts : ∀ x : TextSetting, x.of s = x.of s') : s = s' := by
  have hdatabase := Option.some.inj (htexts .database)
  have hplaylists := Option.some.inj (htexts .playlistsDirectory)
  have hscope := Option.some.inj (htexts .scope)
  have hserver := Option.some.inj (htexts .serverAddress)
  have hapi := Option.some.inj (htexts .apiUrl)
  have hauth := Option.some.inj (htexts .authUrl)
  have htoken := Option.some.inj (htexts .tokenUrl)
  cases s
  cases s'
  simp only [Settings.mk.injEq]
  exact ⟨hdatabase, hplaylists, hsize, hpolicy, htexts .clientId, htexts .clientSecret,
    htexts .redirectUri, hscope, hserver, hapi, hauth, htoken, htexts .cacheKey⟩

/-! ### Target sizes -/

/-- The target size that is given must leave room for a track beside the recommendations. -/
def IsTargetSize : Option String → Nat → Prop
  | none, n => n = 25
  | some v, n => Decimal.Denotes (Text.trim v) n ∧ 5 < n

theorem parseTargetSize_eq_ok_iff {v : String} {n : Nat} :
    parseTargetSize v = .ok n ↔ IsTargetSize (some v) n := by
  rw [IsTargetSize, ← Decimal.natural?_eq_some_iff]
  unfold parseTargetSize
  cases Decimal.natural? (Text.trim v) with
  | none => exact ⟨fun h => (nomatch h), fun h => nomatch h.1⟩
  | some size =>
    dsimp only
    split
    next hsize =>
      constructor
      · intro h
        obtain rfl := Except.ok.inj h
        exact ⟨rfl, hsize⟩
      · rintro ⟨⟨⟩, -⟩
        rfl
    next hsize =>
      constructor
      · intro h
        nomatch h
      · rintro ⟨⟨⟩, h⟩
        exact absurd h hsize

/-- A text that is no target size is reported as it was given. -/
theorem parseTargetSize_eq_error_iff {v : String} {e : SettingError} :
    parseTargetSize v = .error e ↔
      (¬∃ n, IsTargetSize (some v) n) ∧ e = .invalid targetSizeName v := by
  have hcause : ∀ e', parseTargetSize v = .error e' → e' = .invalid targetSizeName v := by
    intro e' h
    unfold parseTargetSize at h
    split at h
    next =>
      split at h
      next => nomatch h
      next => exact (Except.error.inj h).symm
    next => exact (Except.error.inj h).symm
  constructor
  · intro h
    refine ⟨?_, hcause e h⟩
    rintro ⟨n, hn⟩
    rw [parseTargetSize_eq_ok_iff.mpr hn] at h
    nomatch h
  · rintro ⟨hnone, rfl⟩
    cases hparse : parseTargetSize v with
    | error e' => rw [hcause e' hparse]
    | ok n => exact absurd ⟨n, parseTargetSize_eq_ok_iff.mp hparse⟩ hnone

/-! ### The settings of an environment -/

/-- What the settings of an environment are, but for the target size. -/
def IsGiven (env : Environment) (dataDirectory : String) (s : Settings) : Prop :=
  s.unresolved = .skip ∧
    ∀ x : TextSetting, x.of s = (value? env x.variableName).or (x.default dataDirectory)

/-- With a target size there are settings. -/
theorem exists_ofEnvironment {n : Nat} (dataDirectory : String)
    (h : IsTargetSize (value? env targetSizeName) n) : ∃ s,
      ofEnvironment env dataDirectory = .ok s ∧ s.targetSize = n ∧ IsGiven env dataDirectory s := by
  have hgetD : ∀ (given : Option String) (standard : String),
      some (given.getD standard) = given.or (some standard) := by
    intro given standard
    cases given <;> rfl
  -- which settings these are is said by the run
  apply Exists.intro
  refine ⟨?run, ?size, ?policy, fun x => ?text⟩
  case run =>
    rw [ofEnvironment]
    split
    next v hv =>
      rw [hv] at h
      rw [parseTargetSize_eq_ok_iff.mpr h]
      rfl
    next hv =>
      rw [hv] at h
      have hn : n = defaultTargetSize := h
      rw [hn]
      rfl
  case size => rfl
  case policy => rfl
  case text =>
    cases x with
    | clientId => exact (Option.or_none ..).symm
    | clientSecret => exact (Option.or_none ..).symm
    | redirectUri => exact (Option.or_none ..).symm
    | cacheKey => exact (Option.or_none ..).symm
    | _ => exact hgetD _ _

/-- With a text that is none there are not. -/
theorem ofEnvironment_of_wrong {v : String} (dataDirectory : String)
    (hv : value? env targetSizeName = some v) (h : ¬∃ n, IsTargetSize (some v) n) :
    ofEnvironment env dataDirectory = .error (.invalid targetSizeName v) := by
  rw [ofEnvironment, hv]
  dsimp only
  rw [parseTargetSize_eq_error_iff.mpr ⟨h, rfl⟩]
  rfl

/-- **Each setting is what is given for it, or its default.** -/
theorem ofEnvironment_eq_ok_iff {s : Settings} : ofEnvironment env dataDirectory = .ok s ↔
    IsTargetSize (value? env targetSizeName) s.targetSize ∧ IsGiven env dataDirectory s := by
  constructor
  · intro h
    by_cases hsize : ∃ n, IsTargetSize (value? env targetSizeName) n
    · obtain ⟨n, hn⟩ := hsize
      obtain ⟨s', hrun, rfl, hgiven⟩ := exists_ofEnvironment dataDirectory hn
      obtain rfl : s' = s := Except.ok.inj (hrun.symm.trans h)
      exact ⟨hn, hgiven⟩
    · cases hv : value? env targetSizeName with
      | none => exact absurd ⟨25, by rw [hv]; rfl⟩ hsize
      | some v =>
        rw [hv] at hsize
        rw [ofEnvironment_of_wrong dataDirectory hv hsize] at h
        nomatch h
  · rintro ⟨hn, hpolicy, htexts⟩
    obtain ⟨s', hrun, hsize, hpolicy', htexts'⟩ := exists_ofEnvironment dataDirectory hn
    rw [hrun, eq_of_texts hsize (hpolicy'.trans hpolicy.symm)
      fun x => (htexts' x).trans (htexts x).symm]

/-- **Only a target size can be wrong.** -/
theorem ofEnvironment_eq_error_iff {e : SettingError} :
    ofEnvironment env dataDirectory = .error e ↔ ∃ v, value? env targetSizeName = some v ∧
      (¬∃ n, IsTargetSize (some v) n) ∧ e = .invalid targetSizeName v := by
  constructor
  · intro h
    cases hv : value? env targetSizeName with
    | none =>
      have hn : IsTargetSize (value? env targetSizeName) 25 := by
        rw [hv]
        rfl
      obtain ⟨s, hrun, -⟩ := exists_ofEnvironment dataDirectory hn
      rw [hrun] at h
      nomatch h
    | some v =>
      by_cases hsize : ∃ n, IsTargetSize (some v) n
      · obtain ⟨n, hn⟩ := hsize
        rw [← hv] at hn
        obtain ⟨s, hrun, -⟩ := exists_ofEnvironment dataDirectory hn
        rw [hrun] at h
        nomatch h
      · rw [ofEnvironment_of_wrong dataDirectory hv hsize] at h
        exact ⟨v, rfl, hsize, (Except.error.inj h).symm⟩
  · rintro ⟨v, hv, hsize, rfl⟩
    exact ofEnvironment_of_wrong dataDirectory hv hsize

/-! ### The environment and the files -/

/-- The value of a variable: of the environment if it is set there, else of the first assignment in
the file of the working directory, else of the first in the program's own file. -/
def rawValue (env : Environment) (working own : Option String) (name : String) : Option String :=
  (env.get? name).or (((fileAssignments env working).lookup name).or
    ((fileAssignments (env.adoptAll (fileAssignments env working)) own).lookup name))

theorem rawValue_of_assignments {working own : Option String}
    {first second : List (String × String)} (hworking : fileAssignments env working = first)
    (hown : fileAssignments (env.adoptAll first) own = second) (name : String) :
    rawValue env working own name
      = (env.get? name).or ((first.lookup name).or (second.lookup name)) := by
  subst hworking
  subst hown
  rfl

/-- The value that counts for a setting: a blank one does not. -/
def givenValue (env : Environment) (working own : Option String) (name : String) : Option String :=
  (rawValue env working own name).filter fun v => !Text.isBlankText v

/-- **Where every setting comes from, and what can fail.**  After the two files have been taken in,
each variable has its value from the environment, the file of the working directory or the program's
own file, the first of them that sets it.  There are settings unless the target size is given and
unusable; then each of them is what is given for it, as it stands, or its default.  Taking the files
in fails exactly if the program's own file has a bad line, and makes no difference to the values. -/
theorem load_precedence (env : Environment) (working own : Option String) (dataDirectory : String) :
    (∀ name, Environment.IsName name →
      (loadBoth env working own).1.get? name = rawValue env working own name) ∧
    (∀ s, ofEnvironment (loadBoth env working own).1 dataDirectory = .ok s ↔
      IsTargetSize (givenValue env working own targetSizeName) s.targetSize ∧
      s.unresolved = .skip ∧
      ∀ x : TextSetting,
        x.of s = (givenValue env working own x.variableName).or (x.default dataDirectory)) ∧
    (∀ e, ofEnvironment (loadBoth env working own).1 dataDirectory = .error e ↔
      ∃ v, givenValue env working own targetSizeName = some v ∧
        (¬∃ n, IsTargetSize (some v) n) ∧ e = .invalid targetSizeName v) ∧
    ((loadBoth env working own).2 = false ↔
      ∃ text, own = some text ∧ ∃ l ∈ lines text, IsBad l) := by
  have hraw : ∀ name, Environment.IsName name →
      (loadBoth env working own).1.get? name = rawValue env working own name :=
    fun name => get?_loadBoth working own
  have hgiven : ∀ name, Environment.IsName name →
      value? (loadBoth env working own).1 name = givenValue env working own name := by
    intro name hname
    rw [value?, hraw name hname, givenValue]
  refine ⟨hraw, fun s => ?ok, fun e => ?error, loadBoth_snd_eq_false_iff working own⟩
  case ok =>
    rw [ofEnvironment_eq_ok_iff, IsGiven, hgiven targetSizeName (by decide)]
    simp only [fun x : TextSetting => hgiven x.variableName x.isName_variableName]
  case error => rw [ofEnvironment_eq_error_iff, hgiven targetSizeName (by decide)]

/-- An environment in which a variable is blank. -/
def sampleEnvironment : Environment := ⟨[("SPOTIFY_CLIENT_ID", " ")]⟩

/-- A file with two assignments to one variable, and a bad line. -/
def sampleWorking : String :=
  "SPOTIFY_CLIENT_ID=a\nexport SERVER_ADDRESS='b c' # d\nSERVER_ADDRESS=e\n!\nSPOTIFY_API_URL=f\n"

/-- A file that assigns to what the bad line hid, refers to what is set, and has a bad line too. -/
def sampleOwn : String :=
  "SPOTIFY_API_URL=$\x7bSERVER_ADDRESS\x7d/g\r\nSMARTLISTS_TARGET_SIZE=' +7 '\n" ++
    "=\nSPOTIFY_CACHE_KEY=h"

/-- The assignments of the first file. -/
def workingAssignments : List (String × String) :=
  [("SPOTIFY_CLIENT_ID", "a"), ("SERVER_ADDRESS", "b c"), ("SERVER_ADDRESS", "e")]

/-- The assignments of the second file, after those of the first. -/
def ownAssignments : List (String × String) :=
  [("SPOTIFY_API_URL", "b c/g"), ("SMARTLISTS_TARGET_SIZE", " +7 ")]

theorem fileAssignments_sampleWorking :
    fileAssignments sampleEnvironment (some sampleWorking) = workingAssignments := by
  decide +kernel

theorem fileAssignments_sampleOwn : fileAssignments (sampleEnvironment.adoptAll workingAssignments)
    (some sampleOwn) = ownAssignments := by
  decide +kernel

theorem givenValue_sample (name : String) :
    givenValue sampleEnvironment (some sampleWorking) (some sampleOwn) name
      = ((sampleEnvironment.get? name).or ((workingAssignments.lookup name).or
          (ownAssignments.lookup name))).filter fun v => !Text.isBlankText v :=
  congrArg (Option.filter _)
    (rawValue_of_assignments fileAssignments_sampleWorking fileAssignments_sampleOwn name)

/-- The blank value hides what the file gives, the first assignment counts, and what stands before a
bad line counts as well. -/
theorem load_sample :
    (loadBoth sampleEnvironment (some sampleWorking) (some sampleOwn)).1.get? "SPOTIFY_CLIENT_ID"
        = some " " ∧
      (loadBoth sampleEnvironment (some sampleWorking) (some sampleOwn)).2 = false ∧
      ∃ s, ofEnvironment (loadBoth sampleEnvironment (some sampleWorking) (some sampleOwn)).1 "/i"
          = .ok s ∧
        s.clientId = none ∧ s.serverAddress = "b c" ∧ s.apiUrl = "b c/g" ∧ s.targetSize = 7 ∧
        s.cacheKey = none := by
  obtain ⟨hraw, hok, herror, hbad⟩ :=
    load_precedence sampleEnvironment (some sampleWorking) (some sampleOwn) "/i"
  simp only [givenValue_sample] at hok herror
  have hsize : ((sampleEnvironment.get? targetSizeName).or ((workingAssignments.lookup
      targetSizeName).or (ownAssignments.lookup targetSizeName))).filter
      (fun v => !Text.isBlankText v) = some " +7 " := by decide +kernel
  have hseven : IsTargetSize (some " +7 ") 7 := parseTargetSize_eq_ok_iff.mp (by decide +kernel)
  have hclient := (hraw "SPOTIFY_CLIENT_ID" (by decide)).trans
    (rawValue_of_assignments fileAssignments_sampleWorking fileAssignments_sampleOwn _)
  have hlast : ∃ l ∈ lines sampleOwn, IsBad l := ⟨"=", by decide +kernel, by decide⟩
  refine ⟨hclient.trans (by decide +kernel), hbad.mpr ⟨_, rfl, hlast⟩, ?_⟩
  cases hrun : ofEnvironment (loadBoth sampleEnvironment (some sampleWorking)
      (some sampleOwn)).1 "/i" with
  | error e =>
    obtain ⟨v, hv, hwrong, -⟩ := (herror e).mp hrun
    obtain rfl := Option.some.inj (hsize.symm.trans hv)
    exact absurd ⟨7, hseven⟩ hwrong
  | ok s =>
    have hsettings := (hok s).mp hrun
    rw [hsize] at hsettings
    obtain ⟨htarget, -, htexts⟩ := hsettings
    have hsame := (parseTargetSize_eq_ok_iff.mpr htarget).symm.trans
      (parseTargetSize_eq_ok_iff.mpr hseven)
    exact ⟨s, rfl, (htexts .clientId).trans (by decide +kernel),
      Option.some.inj ((htexts .serverAddress).trans (by decide +kernel)),
      Option.some.inj ((htexts .apiUrl).trans (by decide +kernel)), Except.ok.inj hsame,
      (htexts .cacheKey).trans (by decide +kernel)⟩

end SmartPlaylist.Settings
