import Mathlib.Data.List.TakeWhile
import SmartPlaylist.Settings.EnvFile

/-!
# What files of assignments leave

A file is a row of assignments up to its first bad line.  Whether a line is bad, and which variable
it assigns, is said by the line alone; only the value may depend on what is set when the line is
read.  Taking a file in is adopting its assignments, so a variable that was set keeps its value, and
one that was not has that of the first assignment to it.

## Main definitions

* `Environment.IsName` — what a variable may be called.
* `EnvFile.IsBad` — a line that is none.
* `EnvFile.assignments` — the assignments of lines up to the first bad one.

## Main results

* `Environment.get?_adoptAll` — what is set stays, and of several assignments the first counts.
* `EnvFile.outline_line` — a line says the same in every environment, but for the value.
* `EnvFile.loadLines_eq` — **taking lines in is adopting their assignments.**
* `EnvFile.get?_loadBoth` — **the environment comes first, then the two files in turn.**
-/

namespace SmartPlaylist

namespace Environment

variable {env : Environment} {name : String}

/-- No name of a variable holds an equals sign, which ends it. -/
def IsName (name : String) : Prop := '=' ∉ name.toList

instance : DecidablePred IsName := fun name => inferInstanceAs (Decidable ('=' ∉ name.toList))

theorem keyOf_of_isName (h : IsName name) : keyOf name = name := by
  have hall : ∀ c ∈ name.toList, decide (c ≠ '=') = true := by
    intro c hc
    exact decide_eq_true (ne_of_mem_of_not_mem hc h)
  rw [keyOf, List.takeWhile_eq_self_iff.mpr hall, String.ofList_toList]

/-- The variable of a name is looked up by all of the name. -/
theorem get?_of_isName (h : IsName name) : env.get? name = env.bindings.lookup name := by
  have hdrop : name.toList.dropWhile (· ≠ '=') = [] := by
    refine List.dropWhile_eq_nil_iff.mpr fun c hc => ?_
    exact decide_eq_true (ne_of_mem_of_not_mem hc h)
  rw [get?, keyOf_of_isName h, hdrop]
  exact Option.bind_fun_some _

/-- A variable that is set keeps its value. -/
theorem get?_adopt {assignment : String × String} (ha : IsName assignment.1) (h : IsName name) :
    (env.adopt assignment).get? name = (env.get? name).or ([assignment].lookup name) := by
  rw [get?_of_isName h, get?_of_isName h, adopt, get?_of_isName ha]
  split
  next hset =>
    by_cases heq : name = assignment.1
    · rw [heq]
      obtain ⟨value, hvalue⟩ := Option.isSome_iff_exists.mp hset
      rw [hvalue, Option.some_or]
    · have hother : [assignment].lookup name = none := by
        rw [List.lookup_eq_none_iff]
        simpa using heq
      rw [hother, Option.or_none]
  next => exact List.lookup_append

/-- **What is set stays, and of several assignments the first counts.** -/
theorem get?_adoptAll {more : List (String × String)} (hmore : ∀ a ∈ more, IsName a.1)
    (h : IsName name) : (env.adoptAll more).get? name = (env.get? name).or (more.lookup name) := by
  induction more generalizing env with
  | nil => exact (Option.or_none ..).symm
  | cons a more ih =>
    rw [List.forall_mem_cons] at hmore
    -- the variable of the first assignment is set from then on, and later ones do not count
    have hstep : env.adoptAll (a :: more) = (env.adopt a).adoptAll more := rfl
    rw [hstep, ih hmore.2, get?_adopt hmore.1 h, Option.or_assoc, ← List.lookup_append]
    rfl

end Environment

namespace EnvFile

variable {env env' : Environment} {earlier earlier' : Earlier}

/-! ### Values -/

namespace Value

/-- Where a reading stands, but for the value so far. -/
def State.outline (s : State) : Place × Mode := (s.place, s.mode)

/-- Where a plain character leads is said by the characters alone. -/
theorem outline_plain (place : Place) (mode : Mode) (done done' : List Char) (c : Char) :
    (plain ⟨place, mode, done⟩ c).map State.outline
      = (plain ⟨place, mode, done'⟩ c).map State.outline := by
  cases place with
  | bare => simp only [plain, apply_ite (Option.map State.outline), Option.map_some, State.outline]
  | single =>
    simp only [plain, apply_ite (Option.map State.outline), Option.map_some, State.outline]
  | double =>
    simp only [plain, apply_ite (Option.map State.outline), Option.map_some, State.outline]
  | ended => rfl

/-- So is where any character leads; what a variable stands for goes to the value. -/
theorem outline_step {s s' : State} (h : s.outline = s'.outline) (c : Char) :
    (step env earlier s c).map State.outline = (step env' earlier' s' c).map State.outline := by
  obtain ⟨place, mode, done⟩ := s
  obtain ⟨place', mode', done'⟩ := s'
  obtain ⟨rfl, rfl⟩ := Prod.mk.inj h
  cases mode with
  | text => exact outline_plain place .text done done' c
  | escape =>
    simp only [step]
    cases escaped? c <;> rfl
  | name reversed =>
    simp only [step, apply_ite (Option.map State.outline), Option.map_some, State.outline]
  | braced reversed =>
    simp only [step, apply_ite (Option.map State.outline), Option.map_some, State.outline]

theorem isSome_finish {s s' : State} (h : s.outline = s'.outline) :
    (finish env earlier s).isSome = (finish env' earlier' s').isSome := by
  obtain ⟨place, mode, done⟩ := s
  obtain ⟨place', mode', done'⟩ := s'
  obtain ⟨rfl, rfl⟩ := Prod.mk.inj h
  cases place <;> cases mode <;> rfl

/-- **Whether characters are a value is said by them alone.** -/
theorem isSome_run (cs : List Char) {s s' : State} (h : s.outline = s'.outline) :
    (run env earlier s cs).isSome = (run env' earlier' s' cs).isSome := by
  -- the two readings stay at one place and in one mode; what they have read may differ
  induction cs generalizing s s' with
  | nil => exact isSome_finish h
  | cons c cs ih =>
    have hplace : s.place = s'.place := congrArg Prod.fst h
    have hstep : (step env earlier s c).map State.outline
        = (step env' earlier' s' c).map State.outline := outline_step h c
    rw [run, run, hplace]
    split
    next =>
      split
      next => exact ih h
      next =>
        split
        next => exact isSome_finish h
        next => rfl
    next =>
      cases hnext : step env earlier s c with
      | none =>
        cases hnext' : step env' earlier' s' c with
        | none => rfl
        | some next' =>
          rw [hnext, hnext'] at hstep
          nomatch hstep
      | some next =>
        cases hnext' : step env' earlier' s' c with
        | none =>
          rw [hnext, hnext'] at hstep
          nomatch hstep
        | some next' =>
          rw [hnext, hnext'] at hstep
          exact ih (Option.some.inj hstep)

end Value

/-! ### Lines -/

/-- What a line says, but for the value. -/
def Line.outline : Line → Line
  | .assignment name _ => .assignment name ""
  | other => other

/-- **A line says the same in every environment, but for the value.** -/
theorem outline_line (text : String) :
    (line env earlier text).outline = (line env' earlier' text).outline := by
  unfold line
  split
  next => rfl
  next => rfl
  next =>
    split
    next => rfl
    next => rfl
    next => rfl
    -- whether the characters are a value is no matter of the environment, only which one
    next name value _ _ _ =>
      have hsome : (Value.parse env earlier value).isSome
          = (Value.parse env' earlier' value).isSome := Value.isSome_run value rfl
      cases hparse : Value.parse env earlier value with
      | none =>
        cases hparse' : Value.parse env' earlier' value with
        | none => rfl
        | some text' =>
          rw [hparse, hparse'] at hsome
          nomatch hsome
      | some text =>
        cases hparse' : Value.parse env' earlier' value with
        | none =>
          rw [hparse, hparse'] at hsome
          nomatch hsome
        | some text' => rfl

/-- A line that is neither an assignment nor nothing. -/
def IsBad (text : String) : Prop := line ⟨[]⟩ [] text = .bad

instance : DecidablePred IsBad := fun text => inferInstanceAs (Decidable (line ⟨[]⟩ [] text = .bad))

theorem Line.outline_eq_bad_iff {l : Line} : l.outline = .bad ↔ l = .bad := by
  cases l with
  | nothing => exact Iff.rfl
  | assignment name value => exact ⟨fun h => (nomatch h), fun h => nomatch h⟩
  | bad => exact Iff.rfl

/-- No environment makes a line bad or good. -/
theorem line_eq_bad_iff {text : String} : line env earlier text = .bad ↔ IsBad text := by
  have houtline : (line env earlier text).outline = (line ⟨[]⟩ [] text).outline :=
    outline_line text
  rw [← Line.outline_eq_bad_iff, houtline, Line.outline_eq_bad_iff, IsBad]

theorem not_isBad {text : String} (h : line env earlier text ≠ .bad) : ¬IsBad text :=
  mt line_eq_bad_iff.mpr h

/-! ### Names -/

/-- A name is letters, digits, underscores and points. -/
theorem isName_name {cs rest : List Char} {first : String} (h : name cs = some (first, rest)) :
    Environment.IsName first := by
  cases cs with
  | nil => nomatch h
  | cons c cs =>
    rw [name] at h
    split at h
    next =>
      obtain ⟨rfl, -⟩ := Prod.mk.inj (Option.some.inj h)
      rw [Environment.IsName, String.toList_ofList]
      intro hmem
      exact absurd (List.mem_takeWhile_imp hmem) (by decide)
    next => nomatch h

theorem suffix_of_name {cs rest : List Char} {first : String} (h : name cs = some (first, rest)) :
    rest <:+ cs := by
  cases cs with
  | nil => nomatch h
  | cons c cs =>
    rw [name] at h
    split at h
    next =>
      obtain ⟨-, rfl⟩ := Prod.mk.inj (Option.some.inj h)
      exact List.dropWhile_suffix _
    next => nomatch h

theorem suffix_of_equalsSign {cs rest : List Char} (h : equalsSign cs = some rest) :
    rest <:+ cs := by
  unfold equalsSign at h
  split at h
  next after heq =>
    obtain rfl := Option.some.inj h
    have hafter : after <:+ cs.dropWhile Text.isBlank := heq ▸ List.suffix_cons _ _
    exact (List.dropWhile_suffix _).trans (hafter.trans (List.dropWhile_suffix _))
  next => nomatch h

/-- An assignment is a name and an equals sign, maybe with a word before them. -/
theorem exists_name_of_assignee {cs value : List Char} {target : String}
    (h : assignee cs = some (target, value)) :
    ∃ part after, part <:+ cs ∧ name part = some (target, after) ∧
      equalsSign after = some value := by
  obtain ⟨⟨first, rest⟩, hfirst, h⟩ := Option.bind_eq_some_iff.mp h
  dsimp only at h
  split at h
  next hequals =>
    obtain ⟨rfl, rfl⟩ := Prod.mk.inj (Option.some.inj h)
    exact ⟨cs, rest, List.suffix_refl _, hfirst, hequals⟩
  next =>
    split at h
    next =>
      obtain ⟨⟨second, after⟩, hsecond, h⟩ := Option.bind_eq_some_iff.mp h
      obtain ⟨left, hequals, h⟩ := Option.bind_eq_some_iff.mp h
      obtain ⟨rfl, rfl⟩ := Prod.mk.inj (Option.some.inj h)
      exact ⟨_, after, (List.dropWhile_suffix _).trans (suffix_of_name hfirst), hsecond, hequals⟩
    next => nomatch h

/-- What a line assigns to stands before its equals sign. -/
theorem exists_assignee {text target value : String}
    (h : line env earlier text = .assignment target value) :
    ∃ rest, assignee ((Text.trimEnd text).toList.dropWhile Text.isBlank) = some (target, rest) := by
  unfold line at h
  split at h
  next => nomatch h
  next => nomatch h
  next =>
    split at h
    next => nomatch h
    next hassignee =>
      obtain ⟨rfl, -⟩ := Line.assignment.inj h
      exact ⟨_, hassignee⟩
    next hassignee =>
      obtain ⟨rfl, -⟩ := Line.assignment.inj h
      exact ⟨_, hassignee⟩
    next hassignee =>
      split at h
      next =>
        obtain ⟨rfl, -⟩ := Line.assignment.inj h
        exact ⟨_, hassignee⟩
      next => nomatch h

/-- What a line assigns to is the name of a variable. -/
theorem isName_line {text target value : String}
    (h : line env earlier text = .assignment target value) : Environment.IsName target := by
  obtain ⟨rest, hassignee⟩ := exists_assignee h
  obtain ⟨part, after, -, hname, -⟩ := exists_name_of_assignee hassignee
  exact isName_name hname

/-! ### Files -/

/-- The assignments of lines, up to the first bad one.  A value may refer to what is set already,
and to the lines before it. -/
def assignments (env : Environment) (earlier : Earlier) : List String → List (String × String)
  | [] => []
  | text :: rest =>
    match line env earlier text with
    | .nothing => assignments env earlier rest
    | .assignment name value =>
      (name, value) :: assignments (env.adopt (name, value)) ((name, value) :: earlier) rest
    | .bad => []

/-- The lines of a file before its first bad one. -/
def goodLines (text : String) : List String := (lines text).takeWhile fun l => !decide (IsBad l)

/-- The assignments of a file; a file that is not there has none. -/
def fileAssignments (env : Environment) (file : Option String) : List (String × String) :=
  match file with
  | some text => assignments env [] (goodLines text)
  | none => []

theorem isName_assignments (ls : List String) :
    ∀ a ∈ assignments env earlier ls, Environment.IsName a.1 := by
  induction ls generalizing env earlier with
  | nil => exact List.forall_mem_nil _
  | cons text rest ih =>
    rw [assignments]
    cases hline : line env earlier text with
    | nothing => exact ih
    | assignment target value =>
      exact List.forall_mem_cons.mpr ⟨isName_line hline, ih⟩
    | bad => exact List.forall_mem_nil _

/-- **Taking lines in is adopting their assignments**, and it is reported whether one was bad. -/
theorem loadLines_eq (ls : List String) : loadLines env earlier ls
    = (env.adoptAll (assignments env earlier ls), !ls.any fun text => decide (IsBad text)) := by
  induction ls generalizing env earlier with
  | nil => rfl
  | cons text rest ih =>
    rw [loadLines, assignments, List.any_cons]
    cases hline : line env earlier text with
    | nothing =>
      have hgood : ¬IsBad text := not_isBad (by rw [hline]; nofun)
      rw [decide_eq_false hgood, Bool.false_or]
      exact ih
    | assignment target value =>
      have hgood : ¬IsBad text := not_isBad (by rw [hline]; nofun)
      rw [decide_eq_false hgood, Bool.false_or]
      exact ih
    | bad =>
      rw [decide_eq_true (line_eq_bad_iff.mp hline), Bool.true_or]
      rfl

/-- What comes after a bad line does not count. -/
theorem assignments_takeWhile (ls : List String) :
    assignments env earlier (ls.takeWhile fun l => !decide (IsBad l))
      = assignments env earlier ls := by
  induction ls generalizing env earlier with
  | nil => rfl
  | cons text rest ih =>
    by_cases hbad : IsBad text
    · have hstop : (text :: rest).takeWhile (fun l => !decide (IsBad l)) = [] :=
        List.takeWhile_cons_of_neg (by simpa using hbad)
      have hnone : assignments env earlier [] = [] := rfl
      rw [hstop, hnone, assignments, line_eq_bad_iff.mpr hbad]
    · have hgo : (text :: rest).takeWhile (fun l => !decide (IsBad l))
          = text :: rest.takeWhile fun l => !decide (IsBad l) :=
        List.takeWhile_cons_of_pos (by simpa using hbad)
      rw [hgo, assignments, assignments]
      cases line env earlier text with
      | nothing => exact ih
      | assignment target value => exact congrArg _ ih
      | bad => rfl

theorem isName_fileAssignments (file : Option String) :
    ∀ a ∈ fileAssignments env file, Environment.IsName a.1 := by
  cases file with
  | none => exact List.forall_mem_nil _
  | some text => exact isName_assignments (goodLines text)

/-- Taking the files in is adopting their assignments, first those of the working directory. -/
theorem loadBoth_fst (working own : Option String) : (loadBoth env working own).1
    = (env.adoptAll (fileAssignments env working)).adoptAll
        (fileAssignments (env.adoptAll (fileAssignments env working)) own) := by
  have hload : ∀ (env : Environment) (text : String),
      (load env text).1 = env.adoptAll (fileAssignments env (some text)) := by
    intro env text
    rw [load, loadLines_eq, fileAssignments, goodLines, assignments_takeWhile]
  cases working with
  | none =>
    cases own with
    | none => rfl
    | some text => exact hload env text
  | some first =>
    cases own with
    | none => exact hload env first
    | some text =>
      rw [← hload env first]
      exact hload _ text

/-- **The environment comes first, then the two files in turn.** -/
theorem get?_loadBoth (working own : Option String) {name : String}
    (h : Environment.IsName name) : (loadBoth env working own).1.get? name
      = (env.get? name).or (((fileAssignments env working).lookup name).or
          ((fileAssignments (env.adoptAll (fileAssignments env working)) own).lookup name)) := by
  rw [loadBoth_fst, Environment.get?_adoptAll (isName_fileAssignments own) h,
    Environment.get?_adoptAll (isName_fileAssignments working) h, Option.or_assoc]

/-- Loading fails on a bad line in the program's own file, and on nothing else. -/
theorem loadBoth_snd_eq_false_iff (working own : Option String) :
    (loadBoth env working own).2 = false ↔ ∃ text, own = some text ∧ ∃ l ∈ lines text, IsBad l := by
  cases own with
  | none => exact ⟨fun h => (nomatch h), fun ⟨_, h, _⟩ => nomatch h⟩
  | some text =>
    have hflag : (loadBoth env working (some text)).2
        = !(lines text).any fun l => decide (IsBad l) := by
      show (load _ text).2 = _
      rw [load, loadLines_eq]
    rw [hflag, Bool.not_eq_false', List.any_eq_true]
    constructor
    · rintro ⟨l, hl, hbad⟩
      exact ⟨text, rfl, l, hl, of_decide_eq_true hbad⟩
    · rintro ⟨_, ⟨⟩, l, hl, hbad⟩
      exact ⟨l, hl, decide_eq_true hbad⟩

end EnvFile

end SmartPlaylist
