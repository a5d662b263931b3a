import HostAddr.CommandLine.Run
import HostAddr.Proofs.Outcome

/-!
# Invocations

The words of a command line are read one after another, and an argument that is left out changes
nothing of the options and the other arguments that are read. What a command line comes to is the
outcome of its task, printed as a whole or not at all.
-/

namespace HostAddr

namespace CommandLine

/-- What is left to do after one word: to stop, to go on with what has been given and the option
that waits for its value, to take the word as an operand, to take all words after it as operands,
or to go down to another level. -/
inductive Step where
  | stop (e : Stop)
  | option (g : Given) (waiting : Option Opt)
  | operand
  | operands
  | enter (l : Level)

namespace Step

def ofOption : Except Stop (Given × Option Opt) → Step
  | .error e => .stop e
  | .ok (g, waiting) => .option g waiting

end Step

/-- The step of a word that no option waits for and no command is named by. -/
def plainStep (l : Level) (g : Given) : List Char → Step
  | '-' :: c :: cs =>
    if c = '-' then
      if cs = [] then .operands
      else
        match l.long? (String.ofList cs) with
        | none => .stop .usage
        | some o => .ofOption ((g.option o "").map (·, none))
    else .ofOption (letters l g (c :: cs))
  | _ => if l.takesOperands then .operand else .stop .usage

/-- The step that a word leads to. -/
def step (l : Level) (g : Given) (waiting : Option Opt) (word : String) : Step :=
  match waiting with
  | some o =>
    if isOption word then .stop .usage else .ofOption ((g.option o word).map (·, none))
  | none =>
    match l.branch? word with
    | some (.level l') => .enter l'
    | some .help => .stop .help
    | none => plainStep l g word.toList

/-- Words are read by the step that the first of them leads to. -/
theorem read_cons (l : Level) (g : Given) (waiting : Option Opt) (word : String)
    (words : List String) :
    read l g waiting (word :: words) =
      match step l g waiting word with
      | .stop e => .error e
      | .option g waiting => read l g waiting words
      | .operand => read l (g.operand word) none words
      | .operands =>
        if words.isEmpty ∨ l.takesOperands then .ok (words.foldl Given.operand g, none)
        else .error .usage
      | .enter l' => .ok (g, some (l', words)) := by
  cases waiting with
  | some o =>
    rw [read, step]
    by_cases hoption : isOption word
    · rw [if_pos hoption, if_pos hoption]
    · rw [if_neg hoption, if_neg hoption]
      cases g.option o word <;> rfl
  | none =>
    rw [read, step]
    cases l.branch? word with
    | some branch => cases branch <;> rfl
    | none =>
      dsimp only
      generalize word.toList = chars
      fun_cases plainStep l g chars with
      | case1 => rfl
      | case2 cs hcs hlong => simp only [hlong]
      | case3 cs hcs o hlong =>
        simp only [hlong]
        cases g.option o "" <;> rfl
      | case4 c cs hc =>
        split
        · rename_i heq
          cases heq
          exact absurd rfl hc
        · rename_i heq
          cases heq
          exact absurd rfl hc
        · rename_i heq
          cases heq
          cases letters l g (c :: cs) <;> rfl
        · rename_i hno
          exact (hno c cs rfl).elim
      | case5 _ hno hoperands =>
        split
        · exact (hno _ _ rfl).elim
        · exact (hno _ _ rfl).elim
        · exact (hno _ _ rfl).elim
        · rw [if_pos hoperands]
      | case6 _ hno hoperands =>
        split
        · exact (hno _ _ rfl).elim
        · exact (hno _ _ rfl).elim
        · exact (hno _ _ rfl).elim
        · rw [if_neg hoperands]

/-- How a first word is read without a fault. -/
theorem read_cons_eq_ok_iff {l : Level} {g g' : Given} {waiting : Option Opt} {word : String}
    {words : List String} {next : Option (Level × List String)} :
    read l g waiting (word :: words) = .ok (g', next) ↔
      (∃ g₁ waiting₁, step l g waiting word = .option g₁ waiting₁ ∧
        read l g₁ waiting₁ words = .ok (g', next)) ∨
      (step l g waiting word = .operand ∧
        read l (g.operand word) none words = .ok (g', next)) ∨
      (step l g waiting word = .operands ∧ (words.isEmpty ∨ l.takesOperands) ∧
        words.foldl Given.operand g = g' ∧ none = next) ∨
      ∃ l', step l g waiting word = .enter l' ∧ g = g' ∧ some (l', words) = next := by
  rw [read_cons]
  cases step l g waiting word with
  | stop e => simp
  | option g₁ waiting₁ => simp
  | operand => simp
  | operands =>
    dsimp only
    split
    · rename_i hwords
      simp [-List.isEmpty_iff, hwords]
    · rename_i hwords
      simp [-List.isEmpty_iff, hwords]
  | enter l' => simp

/-- The same options with other operands. -/
def Given.withOperands (g : Given) (xs : List String) : Given :=
  { g with operands := xs }

def Step.withOperands (xs : List String) : Step → Step
  | .option g waiting => .option (g.withOperands xs) waiting
  | s => s

lemma Step.withOperands_ofOption (xs : List String) (r : Except Stop (Given × Option Opt)) :
    (ofOption r).withOperands xs = ofOption (r.map fun (g, w) => (g.withOperands xs, w)) := by
  cases r <;> rfl

lemma option_withOperands (g : Given) (xs : List String) (o : Opt) (value : String) :
    (g.withOperands xs).option o value = (g.option o value).map (·.withOperands xs) := by
  fun_cases Given.option g o value with
  | case1 => rfl
  | case2 => rfl
  | case3 o hhelp hversion hused =>
    rw [Given.option]
    · exact if_pos hused
    · exact hhelp
    · exact hversion
  | case4 o hhelp hversion hused =>
    rw [Given.option]
    · exact if_neg hused
    · exact hhelp
    · exact hversion

lemma letters_withOperands (l : Level) (xs : List String) (cs : List Char) (g : Given) :
    letters l (g.withOperands xs) cs =
      (letters l g cs).map fun (g, waiting) => (g.withOperands xs, waiting) := by
  induction cs generalizing g with
  | nil => rfl
  | cons c cs ih =>
    rw [letters.eq_def, letters.eq_def l g]
    dsimp only
    cases l.short? c with
    | none => rfl
    | some o =>
      dsimp only
      by_cases hvalue : o.takesValue
      · rw [if_pos hvalue, if_pos hvalue]
        split
        · rfl
        · rw [option_withOperands]
          cases g.option o _ <;> rfl
        · rw [option_withOperands]
          cases g.option o _ <;> rfl
      · rw [if_neg hvalue, if_neg hvalue, option_withOperands]
        cases g.option o "" with
        | error e => rfl
        | ok g => exact ih g

lemma plainStep_withOperands (l : Level) (g : Given) (xs : List String) (cs : List Char) :
    plainStep l (g.withOperands xs) cs = (plainStep l g cs).withOperands xs := by
  fun_cases plainStep l g cs with
  | case1 => rfl
  | case2 cs hcs hlong =>
    rw [plainStep, if_pos rfl, if_neg hcs, hlong]
    rfl
  | case3 cs hcs o hlong =>
    rw [plainStep, if_pos rfl, if_neg hcs, hlong, Step.withOperands_ofOption]
    dsimp only
    rw [option_withOperands]
    cases g.option o "" <;> rfl
  | case4 c cs hc =>
    rw [plainStep, if_neg hc, letters_withOperands, Step.withOperands_ofOption]
  | case5 _ hno hoperands =>
    rw [plainStep]
    · exact if_pos hoperands
    · exact hno
  | case6 _ hno hoperands =>
    rw [plainStep]
    · exact if_neg hoperands
    · exact hno

/-- Which step a word leads to does not depend on the operands before it. -/
theorem step_withOperands (l : Level) (g : Given) (xs : List String) (waiting : Option Opt)
    (word : String) :
    step l (g.withOperands xs) waiting word = (step l g waiting word).withOperands xs := by
  cases waiting with
  | some o =>
    rw [step, step]
    by_cases hoption : isOption word
    · rw [if_pos hoption, if_pos hoption]
      rfl
    · rw [if_neg hoption, if_neg hoption, option_withOperands, Step.withOperands_ofOption]
      cases g.option o word <;> rfl
  | none =>
    rw [step, step]
    cases l.branch? word with
    | some branch => cases branch <;> rfl
    | none => exact plainStep_withOperands l g xs word.toList

lemma operands_of_step {l : Level} {g g' : Given} {waiting waiting' : Option Opt} {word : String}
    (h : step l g waiting word = .option g' waiting') : g'.operands = g.operands := by
  have hsame := step_withOperands l g g.operands waiting word
  rw [show g.withOperands g.operands = g from rfl, h] at hsame
  have hg : g' = g'.withOperands g.operands := (Step.option.inj hsame).1
  rw [hg]
  rfl

/-! ### Arguments left out -/

lemma foldl_operand (g : Given) (words : List String) :
    words.foldl Given.operand g = g.withOperands (g.operands ++ words) := by
  induction words generalizing g with
  | nil =>
    rw [List.append_nil]
    rfl
  | cons word words ih =>
    rw [List.foldl_cons, ih, Given.operand, List.append_assoc]
    rfl

lemma Step.ofOption_cases (r : Except Stop (Given × Option Opt)) :
    (∃ e, ofOption r = .stop e) ∨ ∃ g waiting, ofOption r = .option g waiting := by
  cases r with
  | error e => exact .inl ⟨e, rfl⟩
  | ok found => exact .inr ⟨found.1, found.2, rfl⟩

lemma step_waiting_cases (l : Level) (g : Given) (o : Opt) (word : String) :
    (∃ e, step l g (some o) word = .stop e) ∨
      ∃ g' waiting, step l g (some o) word = .option g' waiting := by
  rw [step]
  split
  · exact .inl ⟨.usage, rfl⟩
  · exact Step.ofOption_cases _

lemma waiting_of_plain {l : Level} {g : Given} {waiting : Option Opt} {word : String}
    (h : step l g waiting word = .operand ∨ step l g waiting word = .operands) :
    waiting = none := by
  cases waiting with
  | none => rfl
  | some o =>
    rcases step_waiting_cases l g o word with ⟨e, hstep⟩ | ⟨g', waiting, hstep⟩ <;>
      rw [hstep] at h <;> rcases h with h | h <;> cases h

lemma branch?_eq_none {l : Level} (hl : l.takesOperands) (word : String) :
    l.branch? word = none := by
  rw [Level.branch?.eq_def]
  split
  all_goals first | cases hl | rfl

lemma step_ne_enter {l : Level} (hl : l.takesOperands) {g : Given} {waiting : Option Opt}
    {word : String} {l' : Level} : step l g waiting word ≠ .enter l' := by
  intro h
  cases waiting with
  | some o =>
    rcases step_waiting_cases l g o word with ⟨e, hstep⟩ | ⟨g', waiting, hstep⟩ <;>
      rw [hstep] at h <;> cases h
  | none =>
    rw [step, branch?_eq_none hl] at h
    dsimp only at h
    revert h
    fun_cases plainStep l g word.toList with
    | case3 cs hcs o hlong =>
      rcases Step.ofOption_cases ((g.option o "").map (·, none)) with ⟨e, hr⟩ | ⟨g', w, hr⟩ <;>
        rw [hr] <;> exact nofun
    | case4 c cs hc =>
      rcases Step.ofOption_cases (letters l g (c :: cs)) with ⟨e, hr⟩ | ⟨g', w, hr⟩ <;>
        rw [hr] <;> exact nofun
    | _ => exact nofun

/-- A level that takes operands takes any of them: where the words of the others are left out, the
options and the operands that stay are read as before. -/
theorem exists_read_kept {l : Level} (hl : l.takesOperands) {words : List String} {g g' : Given}
    {waiting : Option Opt} {next : Option (Level × List String)}
    (h : read l g waiting words = .ok (g', next)) :
    next = none ∧ ∃ added, g'.operands = g.operands ++ added ∧
      ∀ before kept, kept.Sublist added → ∃ words', words'.Sublist words ∧
        read l (g.withOperands before) waiting words' =
          .ok (g'.withOperands (before ++ kept), none) := by
  induction words generalizing g waiting with
  | nil =>
    rw [read] at h
    split at h
    · cases h
    · rename_i hwaiting
      cases h
      refine ⟨rfl, [], (List.append_nil _).symm, fun before kept hkept => ⟨[], .refl _, ?_⟩⟩
      rw [List.sublist_nil.1 hkept, List.append_nil, read, if_neg hwaiting]
  | cons word words ih =>
    rcases read_cons_eq_ok_iff.1 h with ⟨g₁, waiting₁, hstep, hread⟩ | ⟨hstep, hread⟩ |
      ⟨hstep, -, rfl, rfl⟩ | ⟨l', hstep, -⟩
    · obtain ⟨hnext, added, hadded, hkeep⟩ := ih hread
      refine ⟨hnext, added, hadded.trans (by rw [operands_of_step hstep]), ?_⟩
      intro before kept hkept
      obtain ⟨words', hsub, hread'⟩ := hkeep before kept hkept
      refine ⟨word :: words', hsub.cons_cons word, read_cons_eq_ok_iff.2 (.inl ⟨_, _, ?_, hread'⟩)⟩
      rw [step_withOperands, hstep]
      rfl
    · obtain rfl := waiting_of_plain (.inl hstep)
      obtain ⟨hnext, added, hadded, hkeep⟩ := ih hread
      refine ⟨hnext, word :: added, hadded.trans (List.append_assoc _ [word] added), ?_⟩
      intro before kept hkept
      cases hkept with
      | cons _ hkept =>
        obtain ⟨words', hsub, hread'⟩ := hkeep before kept hkept
        exact ⟨words', hsub.cons word, hread'⟩
      | cons_cons _ hkept =>
        rename_i kept
        obtain ⟨words', hsub, hread'⟩ := hkeep (before ++ [word]) kept hkept
        rw [List.append_assoc] at hread'
        refine ⟨word :: words', hsub.cons_cons word,
          read_cons_eq_ok_iff.2 (.inr (.inl ⟨?_, hread'⟩))⟩
        rw [step_withOperands, hstep]
        rfl
    · obtain rfl := waiting_of_plain (.inr hstep)
      rw [foldl_operand]
      refine ⟨rfl, words, rfl, fun before kept hkept => ⟨word :: kept, hkept.cons_cons word, ?_⟩⟩
      refine read_cons_eq_ok_iff.2 (.inr (.inr (.inl ⟨?_, .inr hl, foldl_operand _ kept, rfl⟩)))
      rw [step_withOperands, hstep]
      rfl
    · exact absurd hstep (step_ne_enter hl)

/-- The words before the word of a command are read without those behind it. -/
theorem exists_read_front {l l' : Level} {words rest : List String} {g g' : Given}
    {waiting : Option Opt} (h : read l g waiting words = .ok (g', some (l', rest))) :
    ∃ front, words = front ++ rest ∧
      ∀ rest', read l g waiting (front ++ rest') = .ok (g', some (l', rest')) := by
  induction words generalizing g waiting with
  | nil =>
    rw [read] at h
    split at h <;> cases h
  | cons word words ih =>
    rcases read_cons_eq_ok_iff.1 h with ⟨g₁, waiting₁, hstep, hread⟩ | ⟨hstep, hread⟩ |
      ⟨-, -, -, hnext⟩ | ⟨l₁, hstep, rfl, hnext⟩
    · obtain ⟨front, rfl, hfront⟩ := ih hread
      exact ⟨word :: front, rfl, fun rest' =>
        read_cons_eq_ok_iff.2 (.inl ⟨g₁, waiting₁, hstep, hfront rest'⟩)⟩
    · obtain ⟨front, rfl, hfront⟩ := ih hread
      exact ⟨word :: front, rfl, fun rest' =>
        read_cons_eq_ok_iff.2 (.inr (.inl ⟨hstep, hfront rest'⟩))⟩
    · cases hnext
    · cases hnext
      exact ⟨[word], rfl, fun rest' =>
        read_cons_eq_ok_iff.2 (.inr (.inr (.inr ⟨l', hstep, rfl, rfl⟩)))⟩

namespace Task

/-- The arguments that the task takes one after another. -/
def arguments : Task → List String
  | dump _ addresses => addresses
  | eval _ templates => templates
  | rfcList => []
  | rfcCheck _ addresses => addresses

/-- The same task on other arguments. -/
def on (xs : List String) : Task → Task
  | dump o _ => .dump o xs
  | eval o _ => .eval o xs
  | rfcList => .rfcList
  | rfcCheck rfc _ => .rfcCheck rfc xs

end Task

lemma exists_task_on {g : Given} {l : Level} {task : Task} (h : g.task? l = some task)
    {kept : List String} (hkept : kept.Sublist task.arguments) (hne : kept ≠ []) :
    l.takesOperands ∧ ∃ operands, operands.Sublist g.operands ∧
      (g.withOperands operands).task? l = some (task.on kept) := by
  cases l with
  | root | rfc => cases h
  | rfcList =>
    cases h
    exact absurd (List.sublist_nil.1 hkept) hne
  | dump | eval =>
    rw [Given.task?] at h
    split at h
    · cases h
    · cases h
      refine ⟨rfl, kept, hkept, ?_⟩
      rw [Given.task?]
      exact if_neg fun hempty => hne (List.isEmpty_iff.1 hempty)
  | rfcCheck =>
    rw [Given.task?] at h
    split at h
    · rename_i number a addresses hoperands
      obtain ⟨rfc, hrfc, rfl⟩ := Option.map_eq_some_iff.1 h
      obtain ⟨b, bs, rfl⟩ := List.exists_cons_of_ne_nil hne
      refine ⟨rfl, number :: b :: bs, hoperands ▸ hkept.cons_cons number, ?_⟩
      show (readRfc? number.toList).map _ = _
      rw [hrfc]
      rfl
    · cases h

/-- A level with a command in it goes on with that command, and the last level has the task. -/
theorem descend_succ_eq_ok_iff {depth : Nat} {l : Level} {settings settings' : Settings}
    {words : List String} {task : Task} :
    descend (depth + 1) l settings words = .ok (settings', task) ↔
      ∃ g, (∃ l' rest, read l .empty none words = .ok (g, some (l', rest)) ∧
          descend depth l' (settings.refine g) rest = .ok (settings', task)) ∨
        (read l .empty none words = .ok (g, none) ∧ g.task? l = some task ∧
          settings.refine g = settings') := by
  rw [descend]
  cases read l .empty none words with
  | error e => simp
  | ok found =>
    obtain ⟨g, next⟩ := found
    cases next with
    | some next =>
      obtain ⟨l', rest⟩ := next
      simp
    | none => cases htask : g.task? l <;> simp [htask, and_comm]

/-- The task of a command line is that of its last level. -/
lemma exists_task_of_descend {depth : Nat} {l : Level} {settings settings' : Settings}
    {words : List String} {task : Task}
    (h : descend depth l settings words = .ok (settings', task)) :
    ∃ (g : Given) (l' : Level), g.task? l' = some task := by
  induction depth generalizing l settings words with
  | zero => cases h
  | succ depth ih =>
    obtain ⟨g, ⟨l', rest, -, hrest⟩ | ⟨-, htask, -⟩⟩ := descend_succ_eq_ok_iff.1 h
    · exact ih hrest
    · exact ⟨g, l, htask⟩

/-- Any of the arguments of a command line are those of a command line with the same options, whose
words are among those of the first one in the same order. -/
theorem exists_descend_on {depth : Nat} {l : Level} {settings settings' : Settings}
    {words : List String} {task : Task}
    (h : descend depth l settings words = .ok (settings', task)) {kept : List String}
    (hkept : kept.Sublist task.arguments) (hne : kept ≠ []) :
    ∃ words', words'.Sublist words ∧
      descend depth l settings words' = .ok (settings', task.on kept) := by
  induction depth generalizing l settings words with
  | zero => cases h
  | succ depth ih =>
    obtain ⟨g, ⟨l', rest, hread, hrest⟩ | ⟨hread, htask, hsettings⟩⟩ := descend_succ_eq_ok_iff.1 h
    · obtain ⟨front, hwords, hfront⟩ := exists_read_front hread
      obtain ⟨rest', hsub, hrest'⟩ := ih hrest
      refine ⟨front ++ rest', hwords ▸ (List.append_sublist_append_left front).2 hsub, ?_⟩
      exact descend_succ_eq_ok_iff.2 ⟨g, .inl ⟨l', rest', hfront rest', hrest'⟩⟩
    · obtain ⟨hl, operands, hoperands, hon⟩ := exists_task_on htask hkept hne
      obtain ⟨-, added, hadded, hkeep⟩ := exists_read_kept hl hread
      obtain rfl : g.operands = added := hadded
      obtain ⟨words', hsub, hread'⟩ := hkeep [] operands hoperands
      exact ⟨words', hsub,
        descend_succ_eq_ok_iff.2 ⟨g.withOperands operands, .inr ⟨hread', hon, hsettings⟩⟩⟩

lemma run_of_parse {words : List String} {settings : Settings} {task : Task}
    (h : parse words = .ok (settings, task)) (host : Host) (colour : Bool) (stdin : String) :
    run host colour stdin words =
      (task.run host (colour && !settings.noColour) stdin).exit settings
        (colour && !settings.noColour) := by
  rw [run, h]

lemma exit_of_ok {o : Outcome} {output : List String} (h : o.result = .ok output)
    (s : Settings) (colour : Bool) :
    (o.exit s colour).code = 0 ∧ (o.exit s colour).stdout = unlines output := by
  rw [Outcome.exit, h]
  exact ⟨rfl, rfl⟩

lemma exit_of_error {o : Outcome} {e : Failure} (h : o.result = .error e)
    (s : Settings) (colour : Bool) :
    (o.exit s colour).code = e.code ∧ (o.exit s colour).stdout = "" := by
  rw [Outcome.exit, h]
  exact ⟨rfl, rfl⟩

lemma Failure.code_eq (e : Failure) : e.code = 1 ∨ e.code = 101 := by
  cases e with
  | message text => exact .inl rfl
  | panic notice => exact .inr rfl

lemma Failure.code_ne_zero (e : Failure) : e.code ≠ 0 := by
  rcases e.code_eq with h | h <;> omega

lemma dumpInputs_eq_ok_iff {o : DumpOptions} {inputs : List String} {form : AddressForm}
    {as : List SocketAddress} :
    dumpInputs o inputs = .ok (form, as) ↔ wantedForm o.forms = .ok form ∧
      (o.only.forM checkName).mapError Error.message = .ok () ∧
      readAll "dump" form inputs = .ok as := by
  rw [dumpInputs, bind_eq_ok_iff]
  constructor
  · rintro ⟨form', hform, h⟩
    obtain ⟨u, hnames, h⟩ := bind_eq_ok_iff.1 h
    obtain ⟨as', has, h⟩ := bind_eq_ok_iff.1 h
    cases h
    exact ⟨hform, hnames, has⟩
  · rintro ⟨hform, hnames, has⟩
    exact ⟨form, hform, bind_eq_ok_iff.2 ⟨(), hnames, bind_eq_ok_iff.2 ⟨as, has, rfl⟩⟩⟩

lemma dump_eq_ok_iff (colour : Bool) {o : DumpOptions} {inputs ls : List String} :
    (dump colour o inputs).result = .ok ls ↔
      ∃ form as, dumpInputs o inputs = .ok (form, as) ∧ dumpLines colour o as = ls := by
  rw [dump]
  cases dumpInputs o inputs with
  | error e => simp
  | ok found => simp [Prod.ext_iff]

end CommandLine

end HostAddr
