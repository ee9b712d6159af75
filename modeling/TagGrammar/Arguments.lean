import TagGrammar.Table
import TagGrammar.Text.Integer
import TagGrammar.Text.Scan

/-!
# Command line arguments

Arguments are positional values and options. An option has a long name, which may be shortened as
long as it stays unique, and a short one; its value is the next argument or is attached to it. The
mark `--` ends the options, and a negative number is a value. Every command has an option that asks
for help, and asking for it ends the reading of arguments.

The mark is dropped from what is read as a positional value, so a value may turn out to be void. Two
editions of these conventions are in use. The earlier one drops the mark from the value of an option,
too. They also differ in how a request for help ends that other letters follow.
-/

namespace TagGrammar.Arguments

/-! ## Rules -/

/-- The editions of the conventions. -/
inductive Edition where
  | earlier
  | later
  deriving DecidableEq

/-- Why the reading of arguments ends early. -/
inductive Stop where
  | help
  | misuse
  deriving DecidableEq

structure OptionRule where
  short : Char
  long : String
  accepts : String → Bool

structure PositionalRule where
  required : Bool
  accepts : String → Bool

/-- The arguments of a command. Positional values that are required come first. -/
structure Rules where
  positionals : List PositionalRule
  options : List OptionRule

/-- The argument that ends the options. -/
def endMark : String := "--"

/-- The value of an argument. It is void if nothing is left of it without the mark that ends the
options. -/
inductive Value (α : Type) where
  | given (a : α)
  | void

/-- A value changed by a function, unless it is void. -/
def Value.map {α β : Type} (f : α → β) : Value α → Value β
  | given a => given (f a)
  | void => void

/-- What the name of an option stands for. Only after the short name that asks for help may further
short names follow. -/
inductive Target where
  | help (short : Bool)
  | value (rule : OptionRule)

def Rules.short? (rules : Rules) (c : Char) : Option Target :=
  if c = 'h' then some (.help true)
  else (rules.options.find? fun rule => rule.short = c).map .value

/-- The long names of options, with what they stand for. -/
def Rules.longNames (rules : Rules) : List (String × Target) :=
  ("--help", .help false) :: rules.options.map fun rule => (rule.long, .value rule)

def Rules.named? (rules : Rules) (name : List Char) : Option Target :=
  match name with
  | ['-', c] => rules.short? c
  | _ => (rules.longNames.find? fun known => known.1.toList = name).map Prod.snd

/-! ## Kinds of arguments -/

/-- A text that is attached to an option, with the sign `=` before it or without. -/
structure Attachment where
  sign : Bool
  text : List Char

/-- An argument by its form. -/
inductive Word where
  | plain (text : String)
  | separator
  | flag (target : Target) (attached : Option Attachment)
  | unknown

def Word.isOption : Word → Bool
  | flag .. | unknown => true
  | plain _ | separator => false

/-- Whether a text is a negative number. -/
def looksNegative (text : List Char) : Bool :=
  let isDigit (c : Char) : Bool := (Text.digitValue? c).isSome
  match text with
  | '-' :: rest =>
    let rest := if rest.getLast? == some '\n' then rest.dropLast else rest
    match rest.dropWhile isDigit with
    | [] => !rest.isEmpty
    | '.' :: decimals => !decimals.isEmpty && decimals.all isDigit
    | _ => false
  | _ => false

/-- The part of a text before the first `=`, and the part after it if there is one. -/
def splitEquals (text : List Char) : List Char × Option (List Char) :=
  match text.dropWhile (· != '=') with
  | _ :: rest => (text.takeWhile (· != '='), some rest)
  | [] => (text, none)

/-- What an argument that starts with a hyphen may be short for. -/
def abbreviated (rules : Rules) (text : List Char) : List Word :=
  match text with
  | '-' :: '-' :: _ =>
    let (name, attached) := splitEquals text
    (rules.longNames.filter fun known => name.isPrefixOf known.1.toList).map fun known =>
      .flag known.2 (attached.map (.mk true))
  | '-' :: c :: rest => ((rules.short? c).map fun target => .flag target (some ⟨false, rest⟩)).toList
  | _ => []

/-- The form of an argument that starts with a hyphen and is not the name of an option. -/
def classifyHyphen (rules : Rules) (text : List Char) : Except Stop Word :=
  match splitEquals text with
  | (name, some value) =>
    match rules.named? name with
    | some target => .ok (.flag target (some ⟨true, value⟩))
    | none => choose
  | (_, none) => choose
where
  /-- The one option that an argument is short for, if it is. -/
  choose : Except Stop Word :=
    match abbreviated rules text with
    | [word] => .ok word
    | [] =>
      if looksNegative text || text.contains ' ' then .ok (.plain (String.ofList text))
      else .ok .unknown
    | _ => .error .misuse

def classify (rules : Rules) (argument : String) : Except Stop Word :=
  let text := argument.toList
  match text with
  | '-' :: _ :: _ =>
    match rules.named? text with
    | some target => .ok (.flag target none)
    | none => classifyHyphen rules text
  | _ => .ok (.plain argument)

/-- The forms of arguments. All that follow `--` are plain. -/
def classifyAll (rules : Rules) : List String → Except Stop (List Word)
  | [] => .ok []
  | argument :: rest =>
    if argument = endMark then .ok (.separator :: rest.map .plain)
    else do
      let word ← classify rules argument
      let words ← classifyAll rules rest
      return word :: words

/-! ## Positional values -/

def takeSeparators : List Word → List String × List Word
  | .separator :: rest =>
    let (taken, rest) := takeSeparators rest
    (endMark :: taken, rest)
  | words => ([], words)

def takePositional? (rule : PositionalRule) (words : List Word) :
    Option (List String × List Word) :=
  let (before, words) := takeSeparators words
  match words with
  | .plain text :: rest =>
    let (after, rest) := takeSeparators rest
    some (before ++ text :: after, rest)
  | _ => if rule.required then none else some (before, words)

/-- The value among the arguments of a positional value, without the first mark. -/
def positionalValue (rule : PositionalRule) (taken : List String) :
    Except Stop (Option (Value String)) :=
  match taken.erase endMark with
  | [] => .ok (if rule.required then some .void else none)
  | [text] => if rule.accepts text then .ok (some (.given text)) else .error .misuse
  | _ => .error .misuse

/-- Takes as many positional values as there are: their values, the rules that are left and the
arguments that are left. -/
def takePositionals : List PositionalRule → List Word →
    Except Stop (List (Option (Value String)) × List PositionalRule × List Word)
  | [], words => .ok ([], [], words)
  | rule :: rules, words =>
    match takePositional? rule words with
    | none => .ok ([], rule :: rules, words)
    | some (taken, rest) => do
      let value ← positionalValue rule taken
      let (values, rules, rest) ← takePositionals rules rest
      return (value :: values, rules, rest)

/-! ## Options -/

section
variable (edition : Edition)

/-- How asking for help by a short name ends if a letter follows that is no short name. -/
def strayLetterStop (c : Char) : Stop :=
  match edition with
  | .earlier => .misuse
  | .later => if c = '-' || c = '=' then .misuse else .help

/-- How asking for help by a short name ends if letters follow that name. They stand for short names,
too, and one that needs a value takes what follows it for that. -/
def clusterStop (rules : Rules) (rest : List Word) : List Char → Stop
  | [] => .help
  | c :: more =>
    match rules.short? c with
    | none => strayLetterStop edition c
    | some (.help _) => clusterStop rules rest more
    | some (.value _) =>
      match more, rest with
      | [], .plain _ :: _ => .help
      | [], _ => .misuse
      | _ :: _, _ => .help

/-- How asking for help ends. In the later edition no sign may follow. -/
def helpStop (rules : Rules) (short : Bool) (attached : Option Attachment) (rest : List Word) : Stop :=
  match attached with
  | none => .help
  | some ⟨sign, letters⟩ =>
    if letters.isEmpty || !short || (sign && edition = .later) then .misuse
    else clusterStop edition rules rest letters

def acceptedValue (rule : OptionRule) (text : String) : Except Stop (Value String) :=
  if edition = .earlier ∧ text = endMark then .ok .void
  else if rule.accepts text then .ok (.given text)
  else .error .misuse

/-- An option by its long name, its value and the arguments that are left. -/
def optionValue (rules : Rules) (target : Target) (attached : Option Attachment)
    (rest : List Word) : Except Stop (String × Value String × List Word) :=
  match target, attached with
  | .help short, attached => .error (helpStop edition rules short attached rest)
  | .value rule, some attached =>
    (acceptedValue edition rule (String.ofList attached.text)).map fun value =>
      (rule.long, value, rest)
  | .value rule, none =>
    match rest with
    | .plain text :: rest =>
      (acceptedValue edition rule text).map fun value => (rule.long, value, rest)
    | _ => .error .misuse

variable {edition}

theorem eq_of_map_acceptedValue {rule : OptionRule} {text name : String} {value : Value String}
    {rest left : List Word}
    (h : (acceptedValue edition rule text).map (fun value => (rule.long, value, rest)) =
      .ok (name, value, left)) : left = rest := by
  cases hv : acceptedValue edition rule text with
  | error stop => simp [hv, Except.map] at h
  | ok found =>
    simp only [hv, Except.map, Except.ok.injEq, Prod.mk.injEq] at h
    exact h.2.2.symm

/-- Reading the value of an option leaves no more arguments than there were. -/
theorem length_le_of_optionValue {rules : Rules} {target : Target}
    {attached : Option Attachment} {rest left : List Word} {name : String} {value : Value String}
    (h : optionValue edition rules target attached rest = .ok (name, value, left)) :
    left.length ≤ rest.length := by
  unfold optionValue at h
  split at h
  · cases h
  · exact Nat.le_of_eq (congrArg List.length (eq_of_map_acceptedValue h))
  · split at h
    · exact eq_of_map_acceptedValue h ▸ Nat.le_succ _
    · cases h

end

/-! ## All arguments -/

/-- The values that have been read: those of options by their long names, and the positional ones
in order. -/
structure Values where
  options : Table (Value String)
  positionals : List (Option (Value String))

/-- What has been read so far, the positional values still to come, and whether some argument
belongs nowhere. -/
structure Progress where
  values : Values
  pending : List PositionalRule
  stray : Bool

def Progress.takeFront (progress : Progress) (words : List Word) :
    Except Stop (Progress × List Word) := do
  let (taken, pending, rest) ← takePositionals progress.pending words
  let values := { progress.values with positionals := progress.values.positionals ++ taken }
  return ({ progress with values, pending }, rest)

/-- The values of a command whose arguments have all been read. -/
def Progress.finish (progress : Progress) : Except Stop Values :=
  if progress.stray || progress.pending.any PositionalRule.required then .error .misuse
  else .ok progress.values

def dropToOption (words : List Word) : List Word :=
  words.dropWhile fun word => !word.isOption

theorem length_dropToOption_le (words : List Word) : (dropToOption words).length ≤ words.length :=
  (List.dropWhile_suffix _).length_le

/-- Reads arguments. Positional values are taken wherever there are some before an option. -/
def readWords (edition : Edition) (rules : Rules) (progress : Progress) (words : List Word) :
    Except Stop Values := do
  if words.any Word.isOption then
    match words with
    | [] => progress.finish
    | .flag target attached :: rest =>
      match _h : optionValue edition rules target attached rest with
      | .error stop => .error stop
      | .ok (name, value, left) =>
        let values := { progress.values with options := progress.values.options.insert name value }
        readWords edition rules { progress with values } left
    | .unknown :: rest => readWords edition rules { progress with stray := true } rest
    | _ :: rest =>
      let (progress, left) ← progress.takeFront words
      if left.length ≤ rest.length then readWords edition rules progress left
      else readWords edition rules { progress with stray := true } (dropToOption rest)
  else
    let (progress, left) ← progress.takeFront words
    ({ progress with stray := progress.stray || !left.isEmpty }).finish
termination_by words.length
decreasing_by
  · exact Nat.lt_succ_of_le (length_le_of_optionValue _h)
  · exact Nat.lt_succ_self _
  · exact Nat.lt_succ_of_le ‹_›
  · exact Nat.lt_succ_of_le (length_dropToOption_le _)

def read (edition : Edition) (rules : Rules) (arguments : List String) : Except Stop Values := do
  let words ← classifyAll rules arguments
  readWords edition rules ⟨⟨.empty, []⟩, rules.positionals, false⟩ words

end TagGrammar.Arguments
