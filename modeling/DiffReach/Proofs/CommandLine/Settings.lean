import DiffReach.CommandLine.Commands
import DiffReach.Proofs.Settings

namespace DiffReach.CommandLine

open Settings

namespace Shell

variable {α β : Type} {console after last : Console}

/-- A command comes to an end without contact and without a report. -/
def Does (shell : Shell α) (console : Console) (result : Except Ending α) (after : Console) :
    Prop :=
  ∀ network journal, (shell console).run network journal = (.ok (result, after), journal)

theorem does_pure (a : α) (console : Console) : Does (pure a) console (.ok a) console := by
  intro network journal
  rfl

theorem does_finish (ending : Ending) (console : Console) :
    Does (finish ending : Shell α) console (.error ending) console := by
  intro network journal
  rfl

theorem does_files (console : Console) : Does files console (.ok console.files) console := by
  intro network journal
  rfl

theorem does_setFiles (written : Files) (console : Console) :
    Does (setFiles written) console (.ok ()) { console with files := written } := by
  intro network journal
  rfl

theorem does_echo (s : String) (console : Console) :
    Does (echo s) console (.ok ()) { console with output := console.output ++ (s ++ "\n") } := by
  intro network journal
  rfl

theorem does_session {work : Session α} {a : α}
    (h : ∀ network journal, work.run network journal = (.ok a, journal)) (console : Console) :
    Does (session work) console (.ok a) console := by
  intro network journal
  have hheld : (Session.hold work).run network journal = (.ok (.ok a), journal) := by
    rw [Session.run_hold, h]
  rw [session, Session.run_bind_of_ok hheld]
  rfl

theorem Does.bind {shell : Shell α} {next : α → Shell β} {a : α} {result : Except Ending β}
    (h : Does shell console (.ok a) after) (hnext : Does (next a) after result last) :
    Does (shell >>= next) console result last := by
  intro network journal
  change (andThen shell next console).run network journal = _
  rw [andThen, Session.run_bind_of_ok (h network journal)]
  exact hnext network journal

theorem Does.bind_error {shell : Shell α} {next : α → Shell β} {ending : Ending}
    (h : Does shell console (.error ending) after) :
    Does (shell >>= next) console (.error ending) after := by
  intro network journal
  change (andThen shell next console).run network journal = _
  rw [andThen, Session.run_bind_of_ok (h network journal)]
  rfl

end Shell

open Shell

variable {α : Type} {console after : Console}

theorem ne_dashes_of_not_isOption {arg : String} (h : isOption arg = false) : arg ≠ "--" := by
  rintro rfl
  exact absurd h (by decide)

theorem readArguments_cons {arg : String} (h : isOption arg = false) (specs : List OptionSpec)
    (before : Arguments) (rest : List String) : readArguments specs true before (arg :: rest) =
      readArguments specs true { before with positional := before.positional ++ [arg] } rest := by
  rw [readArguments, if_neg (ne_dashes_of_not_isOption h), if_neg (by simp [h])]
  rfl

theorem readOption_help {arg : String} (h : isOption arg = true) :
    (∃ cause, readOption [helpOption] arg = .error cause) ∨
      readOption [helpOption] arg = .ok (.complete [("help", "")]) := by
  rw [isOption] at h
  split at h
  · rename_i c cs hchars
    rw [readOption]
    dsimp only
    split
    · rename_i spec hfind
      obtain rfl := List.mem_singleton.mp (List.mem_of_find?_eq_some hfind)
      cases (splitLong arg.toList).2 with
      | none => exact Or.inr rfl
      | some v => exact Or.inl ⟨_, rfl⟩
    · left
      rw [hchars]
      split
      · exact ⟨_, rfl⟩
      · rename_i hletters
        obtain rfl := (List.cons.inj hletters).2
        exact ⟨_, rfl⟩
      · rename_i hnone
        cases hnone
  · cases h

/-- Where help is the only option, each argument that looks like one asks for help or takes up the
place of another argument. -/
theorem readArguments_help {args : List String} {before a : Arguments}
    (h : readArguments [helpOption] true before args = .ok a) :
    (∀ option ∈ before.options, option ∈ a.options) ∧
      ((∃ arg ∈ args, isOption arg = true) →
        ("help", "") ∈ a.options ∨
          a.positional.length < before.positional.length + args.length) := by
  induction args generalizing before with
  | nil =>
    cases h
    exact ⟨fun _ hoption => hoption, fun ⟨_, harg, _⟩ => absurd harg List.not_mem_nil⟩
  | cons arg rest ih =>
    by_cases hdashes : arg = "--"
    · rw [readArguments, if_pos hdashes] at h
      cases h
      refine ⟨fun _ hoption => hoption, fun _ => Or.inr ?_⟩
      simp only [List.length_append, List.length_cons]
      omega
    · cases harg : isOption arg with
      | true =>
        rw [readArguments, if_neg hdashes, if_pos harg] at h
        rcases readOption_help harg with ⟨cause, herror⟩ | hhelp
        · rw [herror] at h
          cases h
        · rw [hhelp] at h
          obtain ⟨hkept, -⟩ := ih h
          exact ⟨fun option hoption => hkept option (List.mem_append_left _ hoption),
            fun _ => Or.inl (hkept _ (by simp))⟩
      | false =>
        rw [readArguments_cons harg] at h
        obtain ⟨hkept, hothers⟩ := ih h
        refine ⟨hkept, fun ⟨other, hother, hoption⟩ => ?_⟩
        have hrest : other ∈ rest := by
          refine (List.mem_cons.mp hother).resolve_left ?_
          rintro rfl
          rw [harg] at hoption
          cases hoption
        refine (hothers ⟨other, hrest, hoption⟩).imp_right fun hfew => ?_
        simp only [List.length_append, List.length_cons, List.length_nil] at hfew ⊢
        omega

theorem has_of_mem {a : Arguments} {key v : String} (h : (key, v) ∈ a.options) :
    a.has key = true := by
  rw [Arguments.has, Arguments.value?, Option.isSome_iff_ne_none, ne_eq, List.lookup_eq_none_iff]
  intro hnone
  have hkey := hnone (key, v) (List.mem_reverse.mpr h)
  simp at hkey

section Command

variable {options : List OptionSpec} {mixed : Bool} {args : List String} {a : Arguments}

theorem does_readCommand (hread : Arguments.read (helpOption :: options) mixed args = .ok a)
    (hhelp : a.has "help" = false) (console : Console) :
    Does (readCommand options mixed args) console (.ok a) console := by
  rw [readCommand, hread]
  refine (does_pure a console).bind ?_
  rw [if_neg (by simp [hhelp])]
  exact does_pure a console

theorem does_readCommand_help (hread : Arguments.read (helpOption :: options) mixed args = .ok a)
    (hhelp : a.has "help" = true) (console : Console) :
    Does (readCommand options mixed args) console (.error .help) console := by
  rw [readCommand, hread]
  refine (does_pure a console).bind ?_
  rw [if_pos hhelp]
  exact does_finish .help console

theorem does_readCommand_error {cause : Misuse}
    (hread : Arguments.read (helpOption :: options) mixed args = .error cause)
    (console : Console) :
    Does (readCommand options mixed args) console (.error (.misuse cause)) console := by
  rw [readCommand, hread]
  exact (does_finish _ console).bind_error

end Command

def withPair (first second : String) (next : List String → Shell α) : Shell α := do
  let a ← readCommand [] true [first, second]
  let taken ← takeArguments 2 a fun _ => pure ()
  next taken

variable {first second : String} {next : List String → Shell α}

theorem does_withPair (hfirst : isOption first = false) (hsecond : isOption second = false)
    {result : Except Ending α} (h : Does (next [first, second]) console result after) :
    Does (withPair first second next) console result after := by
  have hread : Arguments.read [helpOption] true [first, second] = .ok ⟨[], [first, second]⟩ := by
    rw [Arguments.read, readArguments_cons hfirst, readArguments_cons hsecond]
    rfl
  rw [withPair]
  refine (does_readCommand hread rfl console).bind ?_
  exact (does_pure [first, second] console).bind h

theorem does_withPair_of_isOption (h : isOption first = true ∨ isOption second = true)
    (console : Console) :
    ∃ ending, Does (withPair first second next) console (.error ending) console := by
  rw [withPair]
  cases hread : Arguments.read [helpOption] true [first, second] with
  | error cause => exact ⟨_, (does_readCommand_error hread console).bind_error⟩
  | ok a =>
    obtain ⟨-, hplaces⟩ := readArguments_help hread
    cases hhelp : a.has "help" with
    | true => exact ⟨_, (does_readCommand_help hread hhelp console).bind_error⟩
    | false =>
      have hfew : a.positional.length < 2 := by
        refine (hplaces ?_).resolve_left fun hmem => ?_
        · rcases h with hfirst | hsecond
          · exact ⟨first, by simp, hfirst⟩
          · exact ⟨second, by simp, hsecond⟩
        · rw [has_of_mem hmem] at hhelp
          cases hhelp
      have htake : takeArguments 2 a (fun _ => pure ()) = Shell.misuse .missingParameter := by
        rw [takeArguments]
        refine if_pos ?_
        rw [List.length_take]
        omega
      refine ⟨.misuse .missingParameter, (does_readCommand hread hhelp console).bind ?_⟩
      rw [htake]
      exact (does_finish _ console).bind_error

inductive Setting where
  | limit (name text : String)
  | host (key text : String)

namespace Setting

def args : Setting → List String
  | .limit name text => ["config", "set-limit", name, text]
  | .host key text => ["config", "set-github", key, text]

/-- What a command assigns, unless it is refused: a limit takes a positive amount, and no text that
looks like an option is an argument. -/
def assignment? : Setting → Option Assignment
  | .limit name text => do
      let key ← Limits.Key.ofName? name
      let amount ← (key.read (.str text)).toOption
      if amount.atMostZero = false ∧ isOption text = false then
        some ⟨"limits", name, amount.toValue⟩
      else none
  | .host key text =>
      if key ∈ hostKeys ∧ isOption text = false then some ⟨"github", key, .str text⟩ else none

variable {name key text : String} {a : Assignment} {around : Surroundings}

theorem assignment?_limit {key : Limits.Key} {amount : Limits.Amount}
    (hread : key.read (.str text) = .ok amount) (hpositive : amount.atMostZero = false)
    (htext : isOption text = false) :
    (limit key.name text).assignment? = some ⟨"limits", key.name, amount.toValue⟩ := by
  simp [assignment?, Limits.Key.ofName?_eq_some_iff.mpr rfl, hread, hpositive, htext,
    Except.toOption]

theorem exists_of_assignment?_limit (h : (limit name text).assignment? = some a) :
    ∃ (key : Limits.Key) (amount : Limits.Amount), name = key.name ∧
      key.read (.str text) = .ok amount ∧ amount.atMostZero = false ∧ isOption text = false ∧
        a = ⟨"limits", key.name, amount.toValue⟩ := by
  simp only [assignment?, Option.bind_eq_bind, Option.bind_eq_some_iff] at h
  obtain ⟨key, hkey, amount, hamount, h⟩ := h
  obtain rfl := Limits.Key.ofName?_eq_some_iff.mp hkey
  cases hread : key.read (.str text) with
  | error fault =>
    rw [hread] at hamount
    cases hamount
  | ok found =>
    rw [hread] at hamount
    obtain rfl := Option.some.inj hamount
    split at h
    · rename_i hfine
      exact ⟨key, found, rfl, hread, hfine.1, hfine.2, (Option.some.inj h).symm⟩
    · cases h

theorem exists_of_assignment?_host (h : (host key text).assignment? = some a) :
    key ∈ hostKeys ∧ isOption text = false ∧ a = ⟨"github", key, .str text⟩ := by
  rw [assignment?] at h
  split at h
  · rename_i hfine
    exact ⟨hfine.1, hfine.2, (Option.some.inj h).symm⟩
  · cases h

theorem run_limit (around : Surroundings) (name text : String) :
    run around (limit name text).args = withPair name text (fun taken => do
      let amount ← Shell.check (readLimit ((taken[0]?).getD "") ((taken[1]?).getD ""))
      let files ← Shell.files
      keepSaved (saveLimit files ((taken[0]?).getD "") amount.toValue around.format)
      Shell.echo ("Set " ++ (taken[0]?).getD "" ++ " = " ++ amount.toValue.text)) :=
  rfl

theorem run_host (around : Surroundings) (key text : String) :
    run around (host key text).args = withPair key text (fun taken =>
      if hostKeys.elem ((taken[0]?).getD "") then do
        let files ← Shell.files
        keepSaved (saveHost files ((taken[0]?).getD "") (.str ((taken[1]?).getD "")) around.format)
        Shell.echo ("Saved github." ++ (taken[0]?).getD "")
      else Shell.misuse (.badParameter "Key must be one of: token, api_url, app_url")) :=
  rfl

theorem readLimit_of_positive {key : Limits.Key} {amount : Limits.Amount}
    (hread : key.read (.str text) = .ok amount) (hpositive : amount.atMostZero = false) :
    readLimit key.name text = .ok amount := by
  rw [readLimit, Limits.Key.ofName?_eq_some_iff.mpr rfl]
  simp [hread, hpositive]

theorem exists_readLimit_error (h : (limit name text).assignment? = none)
    (htext : isOption text = false) : ∃ cause, readLimit name text = .error cause := by
  cases hlimit : readLimit name text with
  | error cause => exact ⟨cause, rfl⟩
  | ok amount =>
    rw [readLimit] at hlimit
    split at hlimit
    · cases hlimit
    · rename_i key hkey
      obtain rfl := Limits.Key.ofName?_eq_some_iff.mp hkey
      split at hlimit
      · cases hlimit
      · rename_i found hread
        split at hlimit
        · cases hlimit
        · rename_i hpositive
          rw [Bool.not_eq_true] at hpositive
          rw [assignment?_limit hread hpositive htext] at h
          cases h

theorem does_refused {s : Setting} (h : s.assignment? = none) (around : Surroundings)
    (console : Console) :
    ∃ ending, Does (run around s.args) console (.error ending) console := by
  cases s with
  | limit name text =>
    rw [run_limit]
    by_cases hoption : isOption name = true ∨ isOption text = true
    · exact does_withPair_of_isOption hoption console
    · simp only [not_or, Bool.not_eq_true] at hoption
      obtain ⟨cause, hcause⟩ := exists_readLimit_error h hoption.2
      refine ⟨.misuse cause, does_withPair hoption.1 hoption.2 ?_⟩
      change Does (Shell.check (readLimit name text) >>= _) _ _ _
      rw [hcause]
      exact (does_finish _ console).bind_error
  | host key text =>
    rw [run_host]
    by_cases hoption : isOption key = true ∨ isOption text = true
    · exact does_withPair_of_isOption hoption console
    · simp only [not_or, Bool.not_eq_true] at hoption
      have hkey : ¬ hostKeys.elem key = true := by
        intro hmem
        rw [assignment?, if_pos ⟨List.elem_iff.mp hmem, hoption.2⟩] at h
        cases h
      refine ⟨.misuse (.badParameter "Key must be one of: token, api_url, app_url"),
        does_withPair hoption.1 hoption.2 ?_⟩
      change Does (if hostKeys.elem key then _ else _) _ _ _
      rw [if_neg hkey]
      exact does_finish _ console

theorem does_keepSaved {work : Session Saving} {written : Files}
    (h : ∀ network journal, work.run network journal = (.ok ⟨.ok true, written⟩, journal))
    (console : Console) :
    Does (keepSaved work) console (.ok ()) { console with files := written } := by
  have hkept : Does (Shell.settle (.ok true)) { console with files := written } (.ok true)
      { console with files := written } :=
    does_session (fun network journal => Session.run_settle_ok true network journal) _
  exact (does_session h console).bind ((does_setFiles written console).bind
    (hkept.bind (does_pure () _)))

theorem isOption_name (key : Limits.Key) : isOption key.name = false := by
  cases key <;> decide

theorem isOption_of_mem_hostKeys (h : key ∈ hostKeys) : isOption key = false := by
  revert key
  decide

theorem does_accepted {s : Setting} {table : Dict Value} (h : s.assignment? = some a)
    {console : Console} (hreads : Reads around.format console.files table)
    (htable : HasTable table a.table) (hinverts : around.format.Inverts (update table a)) :
    ∃ written output back, Does (run around s.args) console (.ok ()) ⟨written, output⟩ ∧
      Reads around.format written back ∧ back.Alike (update table a) := by
  obtain ⟨written, back, hsave, hback, halike⟩ := run_save hreads htable hinverts
  have hkeep := does_keepSaved hsave console
  cases s with
  | limit name text =>
    obtain ⟨key, amount, rfl, hread, hpositive, htext, rfl⟩ := exists_of_assignment?_limit h
    let message := "Set " ++ key.name ++ " = " ++ amount.toValue.text
    refine ⟨written, console.output ++ (message ++ "\n"), back, ?_, hback, halike⟩
    rw [run_limit]
    refine does_withPair (isOption_name key) htext ?_
    change Does (Shell.check (readLimit key.name text) >>= _) _ _ _
    rw [readLimit_of_positive hread hpositive]
    refine (does_pure amount console).bind ((does_files console).bind ?_)
    exact hkeep.bind (does_echo message _)
  | host key text =>
    obtain ⟨hkey, htext, rfl⟩ := exists_of_assignment?_host h
    let message := "Saved github." ++ key
    refine ⟨written, console.output ++ (message ++ "\n"), back, ?_, hback, halike⟩
    rw [run_host]
    refine does_withPair (isOption_of_mem_hostKeys hkey) htext ?_
    change Does (if hostKeys.elem key then _ else _) _ _ _
    rw [if_pos (List.elem_iff.mpr hkey)]
    refine (does_files console).bind ?_
    exact hkeep.bind (does_echo message _)

section Sequence

variable (around : Surroundings) (network : Host.Network)

def Succeeds (files : Files) (s : Setting) : Prop :=
  ∃ console later,
    (run around s.args ⟨files, ""⟩).run network ⟨[], []⟩ = (.ok (.ok (), console), later)

def filesAfter (files : Files) (s : Setting) : Files :=
  match ((run around s.args ⟨files, ""⟩).run network ⟨[], []⟩).1 with
  | .ok (_, console) => console.files
  | .error _ => files

/-- Every table that the commands write, one after another, is read as it was written. -/
def Faithful : Files → List Setting → Prop
  | _, [] => True
  | files, s :: rest =>
      (∀ table a, Reads around.format files table → s.assignment? = some a →
        around.format.Inverts (update table a)) ∧
          Faithful (filesAfter around network files s) rest

structure Obeys (files : Files) (s : Setting) : Prop where
  succeeds : Succeeds around network files s ↔ s.assignment?.isSome = true
  refused : ¬ Succeeds around network files s → filesAfter around network files s = files
  limits : ∀ (key : Limits.Key) (text : String) (amount : Limits.Amount) (before : Limits),
    s = .limit key.name text → Succeeds around network files s →
    key.read (.str text) = .ok amount →
    ((Settings.limits files around.format).run network ⟨[], []⟩).1 = .ok before →
    ∃ after later, (Settings.limits (filesAfter around network files s) around.format).run network
        ⟨[], []⟩ = (.ok after, later) ∧ after.get key = amount.toValue ∧
      (∀ other, other ≠ key → after.get other = before.get other) ∧
      ∀ event ∈ later.events, ¬ Limits.PassesOver key.name event

end Sequence

variable {network : Host.Network} {files : Files} {expected : Dict Value} {s : Setting}

def Keeps (format : Format) (files : Files) (expected : Dict Value) : Prop :=
  ∃ table, Reads format files table ∧ table.Alike expected ∧ HasTable table "limits" ∧
    HasTable table "github"

theorem filesAfter_of_does {result : Except Ending Unit}
    (h : Does (run around s.args) ⟨files, ""⟩ result after) :
    filesAfter around network files s = after.files := by
  rw [filesAfter, h network ⟨[], []⟩]

theorem succeeds_of_does (h : Does (run around s.args) ⟨files, ""⟩ (.ok ()) after) :
    Succeeds around network files s :=
  ⟨after, ⟨[], []⟩, h network ⟨[], []⟩⟩

theorem not_succeeds_of_does {ending : Ending}
    (h : Does (run around s.args) ⟨files, ""⟩ (.error ending) after) :
    ¬ Succeeds around network files s := by
  rintro ⟨console, later, hrun⟩
  rw [h network ⟨[], []⟩] at hrun
  cases hrun

theorem hasTable_of_assignment? {table : Dict Value} (hlimits : HasTable table "limits")
    (hhost : HasTable table "github") (h : s.assignment? = some a) : HasTable table a.table := by
  cases s with
  | limit name text =>
    obtain ⟨key, amount, -, -, -, -, rfl⟩ := exists_of_assignment?_limit h
    exact hlimits
  | host key text =>
    obtain ⟨-, -, rfl⟩ := exists_of_assignment?_host h
    exact hhost

theorem Keeps.step_of_refused (hkeeps : Keeps around.format files expected)
    (h : s.assignment? = none) :
    Keeps around.format (filesAfter around network files s) expected ∧
      Obeys around network files s := by
  obtain ⟨cause, hdoes⟩ := does_refused h around ⟨files, ""⟩
  have hfiles : filesAfter around network files s = files := filesAfter_of_does hdoes
  have hfails : ¬ Succeeds around network files s := not_succeeds_of_does hdoes
  refine ⟨by rw [hfiles]; exact hkeeps, ?_, fun _ => hfiles,
    fun key text amount before _ hsucceeds => absurd hsucceeds hfails⟩
  rw [h]
  exact iff_of_false hfails (by simp)

theorem Keeps.step_of_accepted (hproper : around.format.IsProper)
    (hkeeps : Keeps around.format files expected) (h : s.assignment? = some a)
    (hinverts : ∀ table, Reads around.format files table →
      around.format.Inverts (update table a)) :
    Keeps around.format (filesAfter around network files s) (update expected a) ∧
      Obeys around network files s := by
  -- the table that is read differs from the expected one in the order of keys, and what is read
  -- after the command differs so from what the command wrote
  obtain ⟨table, hreads, halike, hlimits, hhost⟩ := hkeeps
  have htable := hasTable_of_assignment? hlimits hhost h
  obtain ⟨written, output, back, hdoes, hback, hbackAlike⟩ :=
    @does_accepted a around s table h ⟨files, ""⟩ hreads htable (hinverts table hreads)
  have hfiles : filesAfter around network files s = written := filesAfter_of_does hdoes
  have hsucceeds : Succeeds around network files s := succeeds_of_does hdoes
  refine ⟨?_, ?_, fun hfails => absurd hsucceeds hfails, ?_⟩
  · rw [hfiles]
    exact ⟨back, hback, hbackAlike.trans (update_alike htable halike),
      (hlimits.update a).congr hbackAlike.symm, (hhost.update a).congr hbackAlike.symm⟩
  · rw [h]
    exact iff_of_true hsucceeds rfl
  · rintro key text amount before rfl - hread hbefore
    obtain ⟨found, value, hname, hvalue, hpositive, -, rfl⟩ := exists_of_assignment?_limit h
    obtain rfl := Limits.Key.name_injective hname
    rw [hread] at hvalue
    obtain rfl := Except.ok.inj hvalue
    rw [hfiles]
    exact run_limits_update hproper hreads hlimits hback hbackAlike hread hpositive hbefore

theorem Keeps.step (hproper : around.format.IsProper)
    (hkeeps : Keeps around.format files expected)
    (hinverts : ∀ table a, Reads around.format files table → s.assignment? = some a →
      around.format.Inverts (update table a)) :
    Keeps around.format (filesAfter around network files s)
        (s.assignment?.elim expected (update expected)) ∧
      Obeys around network files s := by
  cases h : s.assignment? with
  | none => exact hkeeps.step_of_refused h
  | some a =>
    exact hkeeps.step_of_accepted hproper h fun table hreads => hinverts table a hreads h

theorem faithful_append (before rest : List Setting) :
    Faithful around network files (before ++ rest) ↔ Faithful around network files before ∧
      Faithful around network (before.foldl (filesAfter around network) files) rest := by
  induction before generalizing files with
  | nil => exact ⟨fun h => ⟨trivial, h⟩, fun h => h.2⟩
  | cons s before ih =>
    rw [List.cons_append, Faithful, Faithful, List.foldl_cons, ih, and_assoc]

theorem Keeps.foldl {commands : List Setting} (hproper : around.format.IsProper)
    (hkeeps : Keeps around.format files expected)
    (hfaithful : Faithful around network files commands) :
    Keeps around.format (commands.foldl (filesAfter around network) files)
      ((commands.filterMap assignment?).foldl update expected) := by
  induction commands generalizing files expected with
  | nil => exact hkeeps
  | cons s commands ih =>
    obtain ⟨hinverts, hrest⟩ := hfaithful
    have hnext := ih (hkeeps.step hproper hinverts).1 hrest
    cases h : s.assignment? with
    | none =>
      rw [h] at hnext
      rw [List.filterMap_cons_none h]
      exact hnext
    | some a =>
      rw [h] at hnext
      rw [List.filterMap_cons_some h]
      exact hnext

theorem settings_set_as_table (around : Surroundings) (hproper : around.format.IsProper)
    (network : Host.Network) {files : Files} {table : Dict Value}
    (hreads : Reads around.format files table) (hlimits : HasTable table "limits")
    (hhost : HasTable table "github") {commands : List Setting}
    (hfaithful : Faithful around network files commands) :
    let assignments := commands.filterMap assignment?
    let expected := assignments.foldl update table
    (∃ final, Reads around.format (commands.foldl (filesAfter around network) files) final ∧
      final.Alike expected) ∧
    (∀ name key, setting expected name key =
      (lastValue? assignments name key).or (setting table name key)) ∧
    (∀ name, (∀ a ∈ assignments, a.table ≠ name) → expected.fetch name = table.fetch name) ∧
    ∀ before s after, commands = before ++ s :: after →
      Obeys around network (before.foldl (filesAfter around network) files) s := by
  intro assignments expected
  have hkeeps : Keeps around.format files table :=
    ⟨table, hreads, Dict.Alike.refl table, hlimits, hhost⟩
  refine ⟨?_, ?_, ?_, ?_⟩
  · obtain ⟨final, hfinal, halike, -⟩ := hkeeps.foldl hproper hfaithful
    exact ⟨final, hfinal, halike⟩
  · exact fun name key => setting_foldl_update assignments table name key
  · exact fun name hname => fetch_foldl_update hname table
  · rintro before s after rfl
    obtain ⟨hbefore, hinverts, -⟩ := (faithful_append before (s :: after)).mp hfaithful
    exact ((hkeeps.foldl hproper hbefore).step hproper hinverts).2

def faithful? (around : Surroundings) (network : Host.Network) : Files → List Setting → Bool
  | _, [] => true
  | files, s :: rest =>
      (match current? around.format files, s.assignment? with
      | some table, some a => around.format.inverts? (update table a)
      | _, _ => true) && faithful? around network (filesAfter around network files s) rest

theorem faithful_of_faithful? {commands : List Setting}
    (h : faithful? around network files commands = true) :
    Faithful around network files commands := by
  induction commands generalizing files with
  | nil => trivial
  | cons s commands ih =>
    rw [faithful?, Bool.and_eq_true] at h
    refine ⟨fun table a hreads ha => ?_, ih h.2⟩
    have hfirst := h.1
    rw [hreads.current?, ha] at hfirst
    exact Format.inverts_of_inverts? hfirst

def mixedText : String :=
  "github = \x7btoken = \"t\"\x7d\nnote = 1\n"

def mixedFiles : Files := [(fileName, .ofText mixedText)]

def mixedTable : Dict Value := (Toml.read mixedText).toOption.getD []

theorem reads_mixedFiles : Reads .toml mixedFiles mixedTable := by
  have hunified : String.ofList (Text.unifyNewlines mixedText.toList) = mixedText := by
    decide +kernel
  have hok : (Toml.read mixedText).toOption.isSome = true := by decide +kernel
  have htext := Entry.text_ofText mixedText
  rw [hunified] at htext
  refine reads_of_entry rfl htext ?_
  rw [mixedTable]
  change Toml.read mixedText = _
  cases hread : Toml.read mixedText with
  | error failure =>
    rw [hread] at hok
    cases hok
  | ok table => rfl

def bareSurroundings : Surroundings := ⟨[], .default, .toml⟩

def offline : Host.Network := fun _ _ => .breakdown .connection "reset"

/-- The first is refused, the second is not. -/
def mixedCommands : List Setting := [.limit "max_findings" "0", .limit "max_annotations" "4"]

theorem faithful_mixedCommands : Faithful bareSurroundings offline mixedFiles mixedCommands :=
  faithful_of_faithful? (by decide +kernel)

theorem exists_limits_mixedFiles :
    ∃ before, ((Settings.limits mixedFiles).run offline ⟨[], []⟩).1 = .ok before := by
  have hok : ((Settings.limits mixedFiles).run offline ⟨[], []⟩).1.toOption.isSome = true := by
    decide +kernel
  cases hlimits : ((Settings.limits mixedFiles).run offline ⟨[], []⟩).1 with
  | error cause =>
    rw [hlimits] at hok
    cases hok
  | ok before => exact ⟨before, rfl⟩

theorem settings_set_as_table_mixed :
    Format.toml.IsProper ∧ Reads .toml mixedFiles mixedTable ∧ HasTable mixedTable "limits" ∧
    HasTable mixedTable "github" ∧ Faithful bareSurroundings offline mixedFiles mixedCommands ∧
    (∃ final,
      Reads .toml (mixedCommands.foldl (filesAfter bareSurroundings offline) mixedFiles) final ∧
        final.Alike ((mixedCommands.filterMap assignment?).foldl update mixedTable)) ∧
    ¬ Succeeds bareSurroundings offline mixedFiles (.limit "max_findings" "0") ∧
    ∃ after later,
      (Settings.limits (mixedCommands.foldl (filesAfter bareSurroundings offline) mixedFiles)).run
        offline ⟨[], []⟩ = (.ok after, later) ∧ after.get .maxAnnotations = .int 4 := by
  have hlimits : HasTable mixedTable "limits" := hasTable_of_isTable (by decide +kernel)
  have hhost : HasTable mixedTable "github" := hasTable_of_isTable (by decide +kernel)
  obtain ⟨hfinal, -, -, hobeys⟩ := settings_set_as_table bareSurroundings Format.isProper_toml
    offline reads_mixedFiles hlimits hhost faithful_mixedCommands
  have hfirst := hobeys [] (.limit "max_findings" "0") [.limit "max_annotations" "4"] rfl
  have hrefused : ¬ Succeeds bareSurroundings offline mixedFiles (.limit "max_findings" "0") := by
    intro hsucceeds
    exact absurd (hfirst.succeeds.mp hsucceeds) (by decide +kernel)
  have hlast := hobeys [.limit "max_findings" "0"] (.limit "max_annotations" "4") [] rfl
  have hsame : filesAfter bareSurroundings offline mixedFiles (.limit "max_findings" "0") =
      mixedFiles := hfirst.refused hrefused
  obtain ⟨before, hbefore⟩ := exists_limits_mixedFiles
  rw [List.foldl_cons, List.foldl_nil, hsame] at hlast
  have hsucceeds := hlast.succeeds.mpr (by decide +kernel)
  obtain ⟨after, later, hrun, hget, -⟩ :=
    hlast.limits .maxAnnotations "4" (.whole 4) before rfl hsucceeds rfl hbefore
  refine ⟨Format.isProper_toml, reads_mixedFiles, hlimits, hhost, faithful_mixedCommands, hfinal,
    hrefused, after, later, ?_, hget⟩
  rw [mixedCommands, List.foldl_cons, List.foldl_cons, List.foldl_nil, hsame]
  exact hrun

end Setting

end DiffReach.CommandLine
