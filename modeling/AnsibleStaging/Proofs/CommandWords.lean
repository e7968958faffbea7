import AnsibleStaging.Proofs.JsonText
import AnsibleStaging.Runner.Tools

/-! The words of the command line that is handed to the playbook. They are what a shell makes of it: blanks between words,
    single quotes around what stands for itself, and a backslash in front of one character. A quoted text is one word,
    whatever is in it, so a value of a variable never adds an option. -/

namespace AnsibleStaging

namespace ShellWord

/-! ### Splitting -/

def isBlank (c : Char) : Bool := c == ' ' || c == '\t'

/-- What means something to a shell besides itself, where it is not quoted. --/
def isSpecial (c : Char) : Bool :=
  ['|', '&', ';', '<', '>', '(', ')', '$', '`', '"', '*', '?', '[', '#', '~', '=', '%', '\n'].contains c

/-- A word that is open, backwards, is closed. --/
def close : Option (List Char) → List String
  | none => []
  | some w => [String.ofList w.reverse]

mutual

/-- The words of a line outside quotes; `word` is the word that is open, backwards. What only a shell can decide about is
    refused. --/
def splitOpen (word : Option (List Char)) : List Char → Option (List String)
  | [] => some (close word)
  | '\'' :: rest => splitQuoted (word.getD []) rest
  | '\\' :: '\n' :: rest => splitOpen word rest
  | '\\' :: c :: rest => splitOpen (some (c :: word.getD [])) rest
  | c :: rest =>
    if isBlank c then (splitOpen none rest).map (close word ++ ·)
    else if isSpecial c ∨ c = '\\' then none
    else splitOpen (some (c :: word.getD [])) rest

/-- The words from within quotes; every character up to the closing quote belongs to the word. --/
def splitQuoted (word : List Char) : List Char → Option (List String)
  | [] => none
  | '\'' :: rest => splitOpen (some word) rest
  | c :: rest => splitQuoted (c :: word) rest

end

def split (line : String) : Option (List String) := splitOpen none line.toList

variable {word : List Char} {rest : List Char}

/-! ### Words as they stand -/

def isPlain (c : Char) : Bool := !isBlank c && !isSpecial c && c != '\'' && c != '\\'

theorem splitOpen_cons {c : Char} {open? : Option (List Char)} (h : isPlain c = true) :
    splitOpen open? (c :: rest) = splitOpen (some (c :: open?.getD [])) rest := by
  simp only [isPlain, Bool.and_eq_true, Bool.not_eq_true', bne_iff_ne] at h
  obtain ⟨⟨⟨hblank, hspecial⟩, hquote⟩, hslash⟩ := h
  rw [splitOpen]
  · simp [hblank, hspecial, hslash]
  all_goals simp_all

theorem splitOpen_append {cs : List Char} (h : ∀ c ∈ cs, isPlain c = true) :
    splitOpen (some word) (cs ++ rest) = splitOpen (some (cs.reverse ++ word)) rest := by
  induction cs generalizing word with
  | nil => rfl
  | cons c cs ih =>
    obtain ⟨hc, hcs⟩ := List.forall_mem_cons.mp h
    rw [List.cons_append, splitOpen_cons hc, ih hcs, List.reverse_cons, List.append_assoc]
    rfl

/-- Plain characters with a blank behind them are a word. --/
theorem splitOpen_word {s : String} (hne : s ≠ "") (hplain : s.toList.all isPlain = true) :
    splitOpen none (s.toList ++ ' ' :: rest) = (splitOpen none rest).map (s :: ·) := by
  obtain ⟨c, cs, hs⟩ := List.exists_cons_of_ne_nil (String.toList_eq_nil_iff.not.mpr hne)
  rw [hs] at hplain
  obtain ⟨hc, hcs⟩ := List.forall_mem_cons.mp (List.all_eq_true.mp hplain)
  have hword : String.ofList (cs.reverse ++ [c]).reverse = s := by
    rw [List.reverse_append, List.reverse_reverse, List.reverse_singleton, List.singleton_append, ← hs,
      String.ofList_toList]
  have hclose : close (some (cs.reverse ++ [c])) = [s] := congrArg (fun w => [w]) hword
  rw [hs, List.cons_append, splitOpen_cons hc, splitOpen_append hcs, splitOpen]
  · change (splitOpen none rest).map (close (some (cs.reverse ++ [c])) ++ ·) = _
    rw [hclose]
    rfl
  all_goals simp

/-! ### Quoted text -/

theorem splitQuoted_quoteChar (c : Char) : splitQuoted word (quoteChar c ++ rest) = splitQuoted (c :: word) rest := by
  rw [quoteChar]
  split
  · next h =>
    subst h
    simp [splitQuoted, splitOpen]
  · next h =>
    rw [List.singleton_append, splitQuoted]
    simpa using h

theorem splitQuoted_flatMap (cs : List Char) :
    splitQuoted word (cs.flatMap quoteChar ++ '\'' :: rest) = splitOpen (some (cs.reverse ++ word)) rest := by
  induction cs generalizing word with
  | nil => rw [List.flatMap_nil, List.nil_append, splitQuoted, List.reverse_nil, List.nil_append]
  | cons c cs ih =>
    rw [List.flatMap_cons, List.append_assoc, splitQuoted_quoteChar, ih, List.reverse_cons, List.append_assoc,
      List.singleton_append]

/-- A quoted text is one word, whatever is in it. --/
theorem split_quote (s : String) : split (quote s) = some [s] := by
  rw [split, quote, String.toList_ofList, quoteChars, splitOpen, splitQuoted_flatMap, splitOpen, close]
  simp

example : split "--check --extra-vars '\x7b\"greeting\":\"it'\\''s\"\x7d'" =
    some ["--check", "--extra-vars", "\x7b\"greeting\":\"it's\"\x7d"] := by decide +kernel

end ShellWord

/-! ### The line -/

namespace Tools

/-- The words that are handed to the playbook. --/
def handedWords (run : AnsibleRun) : List String :=
  (if run.parameters.checkMode then ["--check"] else []) ++
    if run.parameters.vars.isEmpty then [] else ["--extra-vars", run.parameters.vars.toJson.render]

theorem split_extraVars (text : String) : ShellWord.splitOpen none ("--extra-vars " ++ ShellWord.quote text).toList =
    some ["--extra-vars", text] := by
  have hquote : ShellWord.splitOpen none (ShellWord.quote text).toList = some [text] := ShellWord.split_quote text
  have hline : ("--extra-vars " ++ ShellWord.quote text).toList =
      "--extra-vars".toList ++ ' ' :: (ShellWord.quote text).toList := by
    rw [String.toList_append]
    rfl
  rw [hline, ShellWord.splitOpen_word (by decide) (by decide), hquote]
  rfl

theorem check_line (s : String) :
    (String.intercalate " " ["--check", s]).toList = "--check".toList ++ ' ' :: s.toList := by
  rw [String.intercalate_cons_cons]
  simp

theorem split_handedOn (run : AnsibleRun) :
    ShellWord.split (String.intercalate " " (handedOn run)) = some (handedWords run) := by
  unfold handedOn handedWords
  cases run.parameters.checkMode <;> cases run.parameters.vars.isEmpty
  case false.false => exact split_extraVars _
  case false.true => rfl
  case true.true =>
    change ShellWord.split "--check" = some ["--check"]
    decide +kernel
  case true.false =>
    change ShellWord.splitOpen none (String.intercalate " " ["--check", _]).toList =
      some (["--check"] ++ ["--extra-vars", _])
    rw [check_line, ShellWord.splitOpen_word (by decide) (by decide), split_extraVars]
    rfl

/-- The text of the variables starts with a brace, so it is no option. --/
theorem render_ne_check (vars : Vars) : vars.toJson.render ≠ "--check" := by
  have hhead : ∃ cs, vars.toJson.render.toList = '\x7b' :: cs := by
    rw [Json.render, String.toList_ofList, Vars.toJson]
    cases vars.fields with
    | nil => exact ⟨_, rfl⟩
    | cons f o => exact ⟨_, rfl⟩
  obtain ⟨cs, hcs⟩ := hhead
  intro h
  rw [h] at hcs
  exact absurd (List.cons.inj hcs).1 (by decide)

theorem check_mem_handedWords (run : AnsibleRun) : "--check" ∈ handedWords run ↔ run.parameters.checkMode = true := by
  have hvars : "--check" ∉ ["--extra-vars", run.parameters.vars.toJson.render] := by
    simpa using (render_ne_check run.parameters.vars).symm
  unfold handedWords
  cases run.parameters.checkMode <;> cases run.parameters.vars.isEmpty <;> simp_all

theorem handedOn_eq_nil_iff (run : AnsibleRun) :
    handedOn run = [] ↔ run.parameters.checkMode = false ∧ run.parameters.vars.isEmpty = true := by
  unfold handedOn
  cases run.parameters.checkMode <;> cases run.parameters.vars.isEmpty <;> simp

theorem runnerArguments_nil {t : Tools} {run : AnsibleRun} (h : handedOn run = []) :
    (t.runnerArguments run).length = 6 := by
  rw [runnerArguments, h]
  rfl

theorem runnerArguments_line {t : Tools} {run : AnsibleRun} (h : handedOn run ≠ []) :
    (t.runnerArguments run).length = 8 ∧
      (t.runnerArguments run).drop 6 = ["--cmdline", String.intercalate " " (handedOn run)] := by
  obtain ⟨part, parts, hparts⟩ := List.exists_cons_of_ne_nil h
  rw [runnerArguments, hparts]
  exact ⟨rfl, rfl⟩

/-- The runner gets its own six arguments, and a line behind them only when there is something to hand on. Split into
    words, the line is the check option if the run is a rehearsal and the text of the variables if there are any. That
    text is read as the variables, so no value in them is an option. --/
theorem parameters_on_command_line (t : Tools) (run : AnsibleRun) :
    (run.parameters.checkMode = false ∧ run.parameters.vars.isEmpty = true → (t.runnerArguments run).length = 6) ∧
    (¬(run.parameters.checkMode = false ∧ run.parameters.vars.isEmpty = true) →
      ∃ line words, (t.runnerArguments run).length = 8 ∧ (t.runnerArguments run).drop 6 = ["--cmdline", line] ∧
        ShellWord.split line = some words ∧
        words = (if run.parameters.checkMode then ["--check"] else []) ++
          (if run.parameters.vars.isEmpty then [] else ["--extra-vars", run.parameters.vars.toJson.render]) ∧
        ("--check" ∈ words ↔ run.parameters.checkMode = true)) ∧
    ∀ depth, run.parameters.vars.toJson.nesting ≤ depth →
      (run.parameters.vars.toJson.AllDoubles (fun _ => False) →
        Json.parseWithin? depth run.parameters.vars.toJson.render = some run.parameters.vars.toJson) ∧
      ∀ f, run.parameters.vars.toJson.AllDoubles (Json.ReadAs f) →
        Json.parseWithin? depth run.parameters.vars.toJson.render = some (run.parameters.vars.toJson.mapDoubles f) := by
  have hcanonical : run.parameters.vars.toJson.Canonical :=
    ⟨run.parameters.vars.increasing, run.parameters.vars.canonical⟩
  refine ⟨fun h => runnerArguments_nil ((handedOn_eq_nil_iff run).mpr h), fun h => ?_, fun depth hdepth => ⟨?_, ?_⟩⟩
  · obtain ⟨hlength, hdrop⟩ := runnerArguments_line (t := t) ((handedOn_eq_nil_iff run).not.mpr h)
    exact ⟨_, handedWords run, hlength, hdrop, split_handedOn run, rfl, check_mem_handedWords run⟩
  · exact fun hd => Json.parseWithin?_render_whole hdepth hcanonical hd
  · exact fun f hd => Json.parseWithin?_render hdepth hcanonical hd

end Tools
end AnsibleStaging
