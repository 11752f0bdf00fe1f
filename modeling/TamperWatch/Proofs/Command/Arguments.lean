import Mathlib.Data.List.TakeWhile
import TamperWatch.Command.Arguments

/-!
# What a command line gives

No argument takes back an option: what is given so far is given at the end, or there is no run
(`Arguments.prefix_of_readFrom`). Nor does a flag pass for the value of another option. Main
statement: a flag that stands anywhere on a command line is given in its run
(`Arguments.has_of_mem`).
-/

namespace TamperWatch.Arguments

/-- A step keeps what was given before it, unless it stops without a run. -/
def Step.Keeps (given : Given) : Step → Prop
  | .go given' => given <+: given'
  | .await _ given' => given <+: given'
  | .stop request => ∀ given', request ≠ .run given'

/-- The step of one argument, which is a value if one is awaited. -/
def argumentStep (known : List Known) (given : Given) (awaited : Option Known) (argument : String)
    (more : Nat) : Step :=
  match awaited with
  | some option => if isValue argument then record option argument given else .stop .rejected
  | none => step known given argument more

variable {known : List Known} {given given' : Given} {awaited : Option Known} {name : String}

/-- Reading goes on with the rest as the step of the first argument says. -/
lemma readFrom_cons (argument : String) (rest : List String) :
    readFrom known given awaited (argument :: rest) =
      match argumentStep known given awaited argument rest.length with
      | .go given => readFrom known given none rest
      | .await option given => readFrom known given (some option) rest
      | .stop request => request := by
  cases awaited <;> rfl

/-- A step that keeps what was given keeps any beginning of it. -/
lemma Step.Keeps.of_extends {s : Step} (h : s.Keeps given') (hextends : given <+: given') :
    s.Keeps given := by
  cases s with
  | go longer => exact List.IsPrefix.trans hextends h
  | await option longer => exact List.IsPrefix.trans hextends h
  | stop request => exact h

/-- To record an option keeps what was given before. -/
lemma keeps_record (option : Known) (value : String) (given : Given) :
    (record option value given).Keeps given := by
  unfold record
  split
  · exact fun _ => nofun
  split
  · exact fun _ => nofun
  · exact List.prefix_append given _

/-- The step of a long option keeps what was given before. -/
lemma keeps_longStep (known : List Known) (cs : List Char) (given : Given) :
    (longStep known cs given).Keeps given := by
  unfold longStep
  dsimp only
  split
  · split
    · exact keeps_record _ _ given
    · exact List.prefix_rfl
  · split
    · exact fun _ => nofun
    · exact keeps_record _ _ given
  · split
    · exact fun _ => nofun
    split <;> exact fun _ => nofun
  · exact fun _ => nofun

/-- The steps of letters keep what was given before. -/
lemma keeps_letterSteps (known : List Known) (cs : List Char) (given : Given) :
    (letterSteps known given cs).Keeps given := by
  induction cs generalizing given with
  | nil => exact List.prefix_rfl
  | cons c cs ih =>
    unfold letterSteps
    split
    · rename_i option _
      split
      · have hrecord := keeps_record option "" given
        split
        · rename_i longer hgo
          rw [hgo] at hrecord
          -- the letters that follow keep what this one has added
          exact (ih longer).of_extends hrecord
        · exact hrecord
      · split
        · exact List.prefix_rfl
        · exact keeps_record _ _ given
        · exact keeps_record _ _ given
    · split
      · exact fun _ => nofun
      split <;> exact fun _ => nofun

/-- The step of an argument that is no value keeps what was given before. -/
lemma keeps_step (known : List Known) (given : Given) (argument : String) (more : Nat) :
    (step known given argument more).Keeps given := by
  unfold step
  split
  · split
    · exact List.prefix_rfl
    · exact fun _ => nofun
  · exact keeps_longStep known _ given
  · exact keeps_letterSteps known _ given
  · exact fun _ => nofun

/-- The step of any argument keeps what was given before. -/
lemma keeps_argumentStep (known : List Known) (given : Given) (awaited : Option Known)
    (argument : String) (more : Nat) :
    (argumentStep known given awaited argument more).Keeps given := by
  cases awaited with
  | none => exact keeps_step known given argument more
  | some option =>
    unfold argumentStep
    dsimp only
    split
    · exact keeps_record option argument given
    · exact fun _ => nofun

/-- What is given so far is given in the run. -/
theorem prefix_of_readFrom {arguments : List String}
    (h : readFrom known given awaited arguments = .run given') : given <+: given' := by
  induction arguments generalizing given awaited with
  | nil =>
    unfold readFrom at h
    split at h <;> cases h
    exact List.prefix_rfl
  | cons argument rest ih =>
    rw [readFrom_cons] at h
    have hkeeps := keeps_argumentStep known given awaited argument rest.length
    cases hstep : argumentStep known given awaited argument rest.length with
    | go longer =>
      rw [hstep] at h hkeeps
      exact List.IsPrefix.trans hkeeps (ih h)
    | await option longer =>
      rw [hstep] at h hkeeps
      exact List.IsPrefix.trans hkeeps (ih h)
    | stop request =>
      rw [hstep] at h hkeeps
      exact absurd h (hkeeps given')

/-- The option with a name is a flag, and the name can be written after two dashes. -/
structure IsFlag (known : List Known) (name : String) : Prop where
  plain : '=' ∉ name.toList
  nonempty : name ≠ ""
  flag : ∃ option, known.find? (·.name == name) = some option ∧ option.arity = .flag

/-- Where an option or a value can stand, a flag is recorded or refused. -/
lemma argumentStep_flag (hflag : IsFlag known name) (given : Given) (awaited : Option Known)
    (more : Nat) :
    argumentStep known given awaited ("--" ++ name) more =
        .go (given ++ [(name, "")]) ∨
      argumentStep known given awaited ("--" ++ name) more = .stop .rejected := by
  obtain ⟨hplain, hnonempty, option, hoption, harity⟩ := hflag
  have hdashes : ("--" ++ name).toList = '-' :: '-' :: name.toList := by simp
  cases awaited with
  | some awaiting =>
    have hvalue : isValue ("--" ++ name) = false := by
      simp [isValue, ← String.toList_inj, hdashes]
    refine .inr ?_
    rw [argumentStep, hvalue, if_neg Bool.false_ne_true]
  | none =>
    have hname : option.name = name := by simpa using List.find?_some hoption
    have hall : ∀ c ∈ name.toList, decide (c ≠ '=') = true := fun c hc =>
      decide_eq_true fun heq => hplain (heq ▸ hc)
    have hlong : longStep known name.toList given = record option "" given := by
      have htake : name.toList.takeWhile (· ≠ '=') = name.toList :=
        List.takeWhile_eq_self_iff.2 hall
      have hdrop : name.toList.dropWhile (· ≠ '=') = [] := List.dropWhile_eq_nil_iff.2 hall
      unfold longStep
      rw [htake, hdrop, String.ofList_toList]
      dsimp only
      rw [hoption]
      exact if_pos harity
    have hstep : step known given ("--" ++ name) more = longStep known name.toList given := by
      obtain ⟨c, cs, hcs⟩ := List.exists_cons_of_ne_nil (mt String.toList_eq_nil_iff.1 hnonempty)
      unfold step
      rw [hdashes, hcs]
      rfl
    rw [argumentStep, hstep, hlong, record, hname]
    split
    · exact .inr rfl
    · rw [if_neg fun hpath => Arity.noConfusion (harity.symm.trans hpath.1)]
      exact .inl rfl

/-- A flag that stands anywhere on a command line is given in its run. -/
theorem has_of_mem {arguments : List String} (hflag : IsFlag known name)
    (h : readFrom known given awaited arguments = .run given')
    (hmem : "--" ++ name ∈ arguments) : given'.has name = true := by
  induction arguments generalizing given awaited with
  | nil => cases hmem
  | cons argument rest ih =>
    rw [readFrom_cons] at h
    rcases List.mem_cons.1 hmem with rfl | hrest
    · rcases argumentStep_flag hflag given awaited rest.length with hgo | hstop
      · rw [hgo] at h
        obtain ⟨later, rfl⟩ := prefix_of_readFrom h
        simp [Given.has, List.lookup_append]
      · rw [hstop] at h
        cases h
    · cases hstep : argumentStep known given awaited argument rest.length with
      | go longer =>
        rw [hstep] at h
        exact ih h hrest
      | await option longer =>
        rw [hstep] at h
        exact ih h hrest
      | stop request =>
        have hkeeps := keeps_argumentStep known given awaited argument rest.length
        rw [hstep] at h hkeeps
        exact absurd h (hkeeps given')

end TamperWatch.Arguments
