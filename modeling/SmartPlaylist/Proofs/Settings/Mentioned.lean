import SmartPlaylist.Command.Plan
import SmartPlaylist.Proofs.Settings.Precedence

/-!
# The variables that matter

Of the variables of the process, a plan depends on those of the settings and on those that the files
of assignments name: the ones they assign, and the ones they refer to after a dollar sign.  Two
environments that give these the same values lead to the same plan.

## Main definitions

* `Environment.AgreeOn` — some variables have the same values.
* `EnvFile.Value.Mode.pending` — the part of a reference that has been read.

## Main results

* `EnvFile.Value.run_congr` — a value depends on what its characters refer to.
* `EnvFile.loadBoth_congr` — **files depend on the variables that they mention.**
* `Plan.make_congr` — **no other variable matters.**
-/

namespace SmartPlaylist

namespace Environment

variable {names : List String} {env env' : Environment} {name : String}

/-- The variables have the same values in both environments. -/
def AgreeOn (names : List String) (env env' : Environment) : Prop :=
  ∀ name ∈ names, env.bindings.lookup name = env'.bindings.lookup name

namespace AgreeOn

theorem mono {fewer : List String} (h : AgreeOn names env env') (hsubset : fewer ⊆ names) :
    AgreeOn fewer env env' := fun name hname => h name (hsubset hname)

/-- What a name finds is found through its variable. -/
theorem get?_eq (h : AgreeOn names env env') (hname : keyOf name ∈ names) :
    env.get? name = env'.get? name := by
  rw [get?, get?, h _ hname]

/-- Environments that agree still do after both take in an assignment. -/
theorem adopt (h : AgreeOn names env env') {assignment : String × String}
    (ha : IsName assignment.1) (hmem : assignment.1 ∈ names) :
    AgreeOn names (env.adopt assignment) (env'.adopt assignment) := by
  have hset : env.get? assignment.1 = env'.get? assignment.1 :=
    h.get?_eq ((keyOf_of_isName ha).symm ▸ hmem)
  intro name hname
  rw [Environment.adopt, Environment.adopt, hset]
  split
  next => exact h name hname
  next => rw [List.lookup_append, List.lookup_append, h name hname]

end AgreeOn

end Environment

open Environment

namespace EnvFile

variable {env env' : Environment} {earlier : Earlier} {names : List String}
  {cs rest : List Char} {c : Char}

/-! ### References -/

/-- A name without braces goes on as long as letters and digits do. -/
theorem referred_eq_of_isAlphanumeric {reversed : List Char}
    (h : ∀ c ∈ reversed, Text.isAlphanumeric c = true)
    (hend : ∀ c ∈ cs.head?, Text.isAlphanumeric c = false)
    (hbrace : reversed = [] → cs.head? ≠ some '\x7b') :
    referred (reversed.reverse ++ cs) = keyOf (String.ofList reversed.reverse) := by
  have hreverse : ∀ c ∈ reversed.reverse, Text.isAlphanumeric c = true :=
    fun c hc => h c (List.mem_reverse.mp hc)
  have hnone : cs.takeWhile Text.isAlphanumeric = [] := by
    cases cs with
    | nil => rfl
    | cons c cs => exact List.takeWhile_cons_of_neg (by rw [hend c rfl]; decide)
  unfold referred
  split
  next rest heq =>
    cases hcases : reversed.reverse with
    | nil =>
      rw [hcases, List.nil_append] at heq
      exact absurd (congrArg List.head? heq) (hbrace (List.reverse_eq_nil_iff.mp hcases))
    | cons first others =>
      rw [hcases, List.cons_append] at heq
      obtain rfl := (List.cons.inj heq).1
      exact absurd (hreverse '\x7b' (hcases ▸ List.mem_cons_self)) (by decide +kernel)
  next => rw [List.takeWhile_append_of_pos hreverse, hnone, List.append_nil]

/-- A name with braces ends at the closing one. -/
theorem referred_eq_of_braced {reversed : List Char} (h : '\x7d' ∉ reversed) :
    referred ('\x7b' :: (reversed.reverse ++ '\x7d' :: cs))
      = keyOf (String.ofList reversed.reverse) := by
  have hall : ∀ c ∈ reversed.reverse, decide (c ≠ '\x7d') = true := by
    intro c hc
    exact decide_eq_true (ne_of_mem_of_not_mem (List.mem_reverse.mp hc) h)
  have htake : (reversed.reverse ++ '\x7d' :: cs).takeWhile (· ≠ '\x7d') = reversed.reverse := by
    rw [List.takeWhile_append_of_pos hall, List.takeWhile_cons_of_neg (by decide), List.append_nil]
  show keyOf (String.ofList ((reversed.reverse ++ '\x7d' :: cs).takeWhile (· ≠ '\x7d'))) = _
  rw [htake]

/-- A part at the end refers to no more. -/
theorem references_subset_of_suffix (h : rest <:+ cs) : references rest ⊆ references cs := by
  induction cs with
  | nil =>
    obtain rfl := List.suffix_nil.mp h
    exact List.Subset.refl _
  | cons c cs ih =>
    rcases List.suffix_cons_iff.mp h with rfl | h
    · exact List.Subset.refl _
    · rw [references]
      split
      next => exact List.Subset.trans (ih h) (List.subset_cons_self _ _)
      next => exact ih h

/-! ### Values -/

namespace Value

variable {s next : State}

/-- The part of a reference that has been read, from its dollar sign on. -/
def Mode.pending : Mode → List Char
  | .text => []
  | .escape => []
  | .name reversed => '$' :: reversed.reverse
  | .braced reversed => '$' :: '\x7b' :: reversed.reverse

/-- The reference that is being read has not come to its end. -/
def Mode.IsOpen : Mode → Prop
  | .text => True
  | .escape => True
  | .name reversed => ∀ c ∈ reversed, Text.isAlphanumeric c = true
  | .braced reversed => '\x7d' ∉ reversed

/-- What holds between two characters.  Nothing is being read once the value has ended. -/
structure State.IsProper (s : State) : Prop where
  isOpen : s.mode.IsOpen
  eq_text : s.place = .ended → s.mode = .text

/-- What a reference stands for depends on its variable. -/
theorem lookUp_congr {reversed : List Char} (h : AgreeOn (references ('$' :: cs)) env env')
    (hreferred : referred cs = keyOf (String.ofList reversed.reverse)) :
    lookUp env earlier reversed = lookUp env' earlier reversed := by
  have hmem : keyOf (String.ofList reversed.reverse) ∈ references ('$' :: cs) :=
    hreferred ▸ List.mem_cons_self
  rw [lookUp, lookUp, h.get?_eq hmem]

/-- A name without braces ends before a character that cannot be in one. -/
theorem lookUp_congr_of_name {reversed : List Char}
    (hopen : ∀ c ∈ reversed, Text.isAlphanumeric c = true)
    (hend : ∀ c ∈ cs.head?, Text.isAlphanumeric c = false)
    (hbrace : reversed = [] → cs.head? ≠ some '\x7b')
    (h : AgreeOn (references ('$' :: reversed.reverse ++ cs)) env env') :
    lookUp env earlier reversed = lookUp env' earlier reversed :=
  lookUp_congr h (referred_eq_of_isAlphanumeric hopen hend hbrace)

/-- **Each step depends on the references.** -/
theorem step_congr (hs : s.IsProper)
    (h : AgreeOn (references (s.mode.pending ++ c :: cs)) env env') :
    step env earlier s c = step env' earlier s c := by
  obtain ⟨place, mode, done⟩ := s
  cases mode with
  | text => rfl
  | escape => rfl
  | name reversed =>
    simp only [step]
    split
    next => rfl
    next hend =>
      split
      next => rfl
      next hbrace =>
        have hlookUp : lookUp env earlier reversed = lookUp env' earlier reversed := by
          refine lookUp_congr_of_name hs.isOpen ?_ ?_ h
          · rintro _ ⟨⟩
            exact Bool.eq_false_iff.mpr hend
          · rintro hnil heq
            exact hbrace ⟨Option.some.inj heq, hnil⟩
        rw [hlookUp]
  | braced reversed =>
    simp only [step]
    split
    next hend =>
      have hlookUp : lookUp env earlier reversed = lookUp env' earlier reversed := by
        rw [hend] at h
        exact lookUp_congr h (referred_eq_of_braced hs.isOpen)
      rw [hlookUp]
    next => rfl

theorem State.IsProper.of_text (h : s.mode = .text) : s.IsProper where
  isOpen := by
    rw [h]
    trivial
  eq_text _ := h

/-- A plain character leads to more text, to an escape, or to a name after a dollar sign. -/
theorem mode_plain {place : Place} {done : List Char}
    (h : plain ⟨place, .text, done⟩ c = some next) :
    next.mode = .text ∨ next.mode = .escape ∧ next.place ≠ .ended ∨
      c = '$' ∧ next.mode = .name [] ∧ next.place ≠ .ended := by
  cases place with
  | ended => nomatch h
  | single | double | bare => grind [plain]

/-- **A step keeps what has been read of a reference, or ends it.** -/
theorem isProper_step (hs : s.IsProper) (hnext : step env earlier s c = some next)
    (cs : List Char) : next.IsProper ∧ next.mode.pending ++ cs <:+ s.mode.pending ++ c :: cs := by
  obtain ⟨place, mode, done⟩ := s
  cases mode with
  | text =>
    rcases mode_plain hnext with htext | ⟨hescape, hplace⟩ | ⟨rfl, hname, hplace⟩
    · rw [htext]
      exact ⟨.of_text htext, List.suffix_cons c cs⟩
    · rw [hescape]
      exact ⟨⟨by rw [hescape]; trivial, fun h => absurd h hplace⟩, List.suffix_cons c cs⟩
    · rw [hname]
      exact ⟨⟨by rw [hname]; exact List.forall_mem_nil _, fun h => absurd h hplace⟩,
        List.suffix_refl _⟩
  | escape =>
    obtain ⟨e, -, rfl⟩ := Option.map_eq_some_iff.mp hnext
    exact ⟨.of_text rfl, List.suffix_cons c cs⟩
  | name reversed =>
    have hplace : place ≠ .ended := mt hs.eq_text (by simp)
    simp only [step] at hnext
    split at hnext
    next hgoes =>
      obtain rfl := Option.some.inj hnext
      refine ⟨⟨List.forall_mem_cons.mpr ⟨hgoes, hs.isOpen⟩, fun h => absurd h hplace⟩, ?_⟩
      simp only [Mode.pending, List.reverse_cons, List.cons_append, List.append_assoc,
        List.nil_append, List.suffix_refl]
    next =>
      split at hnext
      next hbrace =>
        obtain ⟨rfl, rfl⟩ := hbrace
        obtain rfl := Option.some.inj hnext
        exact ⟨⟨List.not_mem_nil, fun h => absurd h hplace⟩, List.suffix_refl _⟩
      next =>
        split at hnext
        next hagain =>
          obtain rfl := Option.some.inj hnext
          rw [hagain]
          exact ⟨⟨List.forall_mem_nil _, fun h => absurd h hplace⟩, List.suffix_append _ _⟩
        next =>
          obtain rfl := Option.some.inj hnext
          exact ⟨.of_text rfl, (List.suffix_cons c cs).trans (List.suffix_append _ _)⟩
  | braced reversed =>
    have hplace : place ≠ .ended := mt hs.eq_text (by simp)
    simp only [step] at hnext
    split at hnext
    next =>
      obtain rfl := Option.some.inj hnext
      exact ⟨.of_text rfl, (List.suffix_cons c cs).trans (List.suffix_append _ _)⟩
    next hgoes =>
      obtain rfl := Option.some.inj hnext
      refine ⟨⟨?_, fun h => absurd h hplace⟩, ?_⟩
      · exact List.not_mem_cons_of_ne_of_not_mem (Ne.symm hgoes) hs.isOpen
      · simp only [Mode.pending, List.reverse_cons, List.cons_append, List.append_assoc,
          List.nil_append, List.suffix_refl]

theorem finish_congr (hs : s.IsProper) (h : AgreeOn (references (s.mode.pending ++ [])) env env') :
    finish env earlier s = finish env' earlier s := by
  obtain ⟨place, mode, done⟩ := s
  cases mode with
  | name reversed =>
    have hlookUp : lookUp env earlier reversed = lookUp env' earlier reversed := by
      refine lookUp_congr_of_name hs.isOpen ?_ ?_ h
      · exact nofun
      · exact fun _ => nofun
    cases place <;> simp only [finish, hlookUp]
  | _ => cases place <;> rfl

/-- **What characters denote depends on the references among them.** -/
theorem run_congr (cs : List Char) {s : State} (hs : s.IsProper)
    (h : AgreeOn (references (s.mode.pending ++ cs)) env env') :
    run env earlier s cs = run env' earlier s cs := by
  induction cs generalizing s with
  | nil => exact finish_congr hs h
  | cons c cs ih =>
    rw [run, run, step_congr hs h]
    split
    next hended =>
      -- nothing is being read
      have hpending : s.mode.pending = [] := by rw [hs.eq_text hended, Mode.pending]
      rw [hpending, List.nil_append] at h
      have hrest : AgreeOn (references (s.mode.pending ++ cs)) env env' := by
        rw [hpending, List.nil_append]
        exact h.mono (references_subset_of_suffix (List.suffix_cons c cs))
      split
      next => exact ih hs hrest
      next =>
        split
        next =>
          refine finish_congr hs ?_
          rw [hpending]
          exact List.forall_mem_nil _
        next => rfl
    next =>
      cases hnext : step env' earlier s c with
      | none => rfl
      | some next =>
        obtain ⟨hproper, hsuffix⟩ := isProper_step hs hnext cs
        exact ih hproper (h.mono (references_subset_of_suffix hsuffix))

theorem parse_congr (h : AgreeOn (references cs) env env') :
    parse env earlier cs = parse env' earlier cs :=
  run_congr cs (.of_text rfl) h

end Value

/-! ### Lines -/

/-- The value stands at the end of its line. -/
theorem suffix_of_assignee {target : String} (h : assignee cs = some (target, rest)) :
    rest <:+ cs := by
  obtain ⟨part, after, hpart, hname, hequals⟩ := exists_name_of_assignee h
  exact (suffix_of_equalsSign hequals).trans ((suffix_of_name hname).trans hpart)

/-- **What a line says depends on the variables that it refers to.** -/
theorem line_congr {text : String} (h : AgreeOn (mentionedIn text) env env') :
    line env earlier text = line env' earlier text := by
  have hreferences := h.mono (List.subset_append_right _ _)
  unfold line
  split
  next => rfl
  next => rfl
  next =>
    split
    next => rfl
    next => rfl
    next => rfl
    next name value _ _ hassignee =>
      have hvalue := references_subset_of_suffix (suffix_of_assignee hassignee)
      rw [Value.parse_congr (hreferences.mono hvalue)]

/-- A line mentions the variable that it assigns. -/
theorem mem_mentionedIn {text target value : String}
    (h : line env earlier text = .assignment target value) : target ∈ mentionedIn text := by
  obtain ⟨rest, hassignee⟩ := exists_assignee h
  refine List.mem_append_left _ ?_
  rw [hassignee]
  exact List.mem_singleton_self _

/-! ### Files -/

/-- Lines do the same to environments that agree. -/
theorem loadLines_congr (ls : List String) (hls : ∀ text ∈ ls, mentionedIn text ⊆ names)
    (h : AgreeOn names env env') :
    AgreeOn names (loadLines env earlier ls).1 (loadLines env' earlier ls).1 ∧
      (loadLines env earlier ls).2 = (loadLines env' earlier ls).2 := by
  induction ls generalizing env env' earlier with
  | nil => exact ⟨h, rfl⟩
  | cons text ls ih =>
    rw [List.forall_mem_cons] at hls
    rw [loadLines, loadLines, ← line_congr (h.mono hls.1)]
    cases hline : line env earlier text with
    | nothing => exact ih hls.2 h
    | assignment target value =>
      exact ih hls.2 (h.adopt (isName_line hline) (hls.1 (mem_mentionedIn hline)))
    | bad => exact ⟨h, rfl⟩

theorem load_congr {text : String} (htext : mentioned text ⊆ names) (h : AgreeOn names env env') :
    AgreeOn names (load env text).1 (load env' text).1 ∧ (load env text).2 = (load env' text).2 :=
  loadLines_congr (lines text)
    (fun _ hline _ hname => htext (List.mem_flatMap_of_mem hline hname)) h

/-- **Files depend on the variables that they mention.** -/
theorem loadBoth_congr {working own : Option String}
    (hfiles : (working.toList ++ own.toList).flatMap mentioned ⊆ names)
    (h : AgreeOn names env env') :
    AgreeOn names (loadBoth env working own).1 (loadBoth env' working own).1 ∧
      (loadBoth env working own).2 = (loadBoth env' working own).2 := by
  have htexts : ∀ text ∈ working.toList ++ own.toList, mentioned text ⊆ names :=
    fun text htext _ hname => hfiles (List.mem_flatMap_of_mem htext hname)
  have hworking : AgreeOn names (loadBoth env working none).1 (loadBoth env' working none).1 := by
    cases working with
    | none => exact h
    | some text => exact (load_congr (htexts text (by simp)) h).1
  cases own with
  | none => exact ⟨hworking, rfl⟩
  | some text => exact load_congr (htexts text (by simp)) hworking

end EnvFile

/-! ### Plans -/

namespace Plan

variable {env env' : Environment}

theorem variableName_mem_baseVariables (x : Settings.TextSetting) :
    x.variableName ∈ baseVariables := by
  cases x <;> decide

theorem isName_baseVariables : ∀ name ∈ baseVariables, IsName name := by decide

theorem get?_eq {name : String} (h : AgreeOn baseVariables env env')
    (hname : name ∈ baseVariables) : env.get? name = env'.get? name :=
  h.get?_eq ((keyOf_of_isName (isName_baseVariables name hname)).symm ▸ hname)

theorem dataDirectory_congr (h : AgreeOn baseVariables env env') (accountHome : Option String) :
    env.dataDirectory accountHome = env'.dataDirectory accountHome := by
  have hhome : env.homeDirectory accountHome = env'.homeDirectory accountHome := by
    rw [homeDirectory, homeDirectory, get?_eq h (by decide)]
  rw [dataDirectory, dataDirectory, localDataDirectory, localDataDirectory, hhome,
    get?_eq h (by decide)]

theorem ofEnvironment_congr (h : AgreeOn baseVariables env env') (own : String) :
    Settings.ofEnvironment env own = Settings.ofEnvironment env' own := by
  have hvalue : ∀ name ∈ baseVariables, Settings.value? env name = Settings.value? env' name := by
    intro name hname
    rw [Settings.value?, Settings.value?, get?_eq h hname]
  have hsize := hvalue Settings.targetSizeName (by decide)
  symm
  cases hrun : Settings.ofEnvironment env own with
  | ok s =>
    obtain ⟨htarget, hpolicy, htexts⟩ := Settings.ofEnvironment_eq_ok_iff.mp hrun
    refine Settings.ofEnvironment_eq_ok_iff.mpr ⟨hsize ▸ htarget, hpolicy, fun x => ?_⟩
    rw [htexts x, hvalue _ (variableName_mem_baseVariables x)]
  | error e =>
    obtain ⟨v, hv, hwrong⟩ := Settings.ofEnvironment_eq_error_iff.mp hrun
    exact Settings.ofEnvironment_eq_error_iff.mpr ⟨v, hsize ▸ hv, hwrong⟩

theorem ofInvocation_congr (h : AgreeOn baseVariables env env') (own : String) (i : Invocation) :
    ofInvocation env own i = ofInvocation env' own i := by
  unfold ofInvocation
  rw [ofEnvironment_congr h own]

/-- **No other variable matters**, neither for the plan nor for the program's own directory. -/
theorem make_congr {working own : Option String}
    (h : AgreeOn (allVariables working own) env env') (accountHome : Option String)
    (directory : String) (args : List String) :
    make env directory working own args = make env' directory working own args ∧
      (EnvFile.loadBoth env working own).1.dataDirectory accountHome
        = (EnvFile.loadBoth env' working own).1.dataDirectory accountHome := by
  obtain ⟨hagree, hflag⟩ := EnvFile.loadBoth_congr (List.subset_append_right _ _) h
  have hvariables := hagree.mono (List.subset_append_left _ _)
  refine ⟨?_, dataDirectory_congr hvariables accountHome⟩
  unfold make
  generalize EnvFile.loadBoth env working own = loaded at hvariables hflag ⊢
  generalize EnvFile.loadBoth env' working own = loaded' at hvariables hflag ⊢
  obtain ⟨after, good⟩ := loaded
  obtain ⟨after', good'⟩ := loaded'
  obtain rfl : good = good' := hflag
  cases good with
  | true => exact ofInvocation_congr hvariables directory _
  | false => rfl

end Plan

end SmartPlaylist
