import PocketCalc.Number.Numeral

/-!
# Command line options

An option has a long name and perhaps a letter.  A long name may be cut short where no other long
name begins in the same way; letters that take nothing may share one dash; what an option takes is
attached to it, behind `=` if it has a long name, or comes next.

* `Switch`                 the options, their names, and what each takes;
* `Word`                   an argument: an option, or something else;
* `Word.ofText`            which of them an argument is;
* `Word.resolve`           the options in an argument with what they take, and the words left;
* `Options`, `Options.parse`   the outcome, or how the program ends instead.
-/

namespace PocketCalc.CommandLine

open Text

/-! ## Options and their names -/

inductive Switch
  | help
  | verbose
  | history
  | historySize
  | expression
  | prompt
  | grammar
  | dump
  | keys
  | list
deriving DecidableEq, Repr

inductive Takes
  | nothing
  | one
  | atMostOne
  | allThatFollows
deriving DecidableEq, Repr

namespace Switch

def all : List Switch :=
  [help, verbose, history, historySize, expression, prompt, grammar, dump, keys, list]

def letter? : Switch → Option Char
  | help => some 'h'
  | verbose => some 'v'
  | history => some 'H'
  | historySize => none
  | expression => some 'e'
  | prompt => some 'p'
  | grammar => some 'G'
  | dump => some 'D'
  | keys => some 'k'
  | list => some 'l'

def longName : Switch → String
  | help => "--help"
  | verbose => "--verbose"
  | history => "--history"
  | historySize => "--history-size"
  | expression => "--expression"
  | prompt => "--prompt"
  | grammar => "--raw-grammar"
  | dump => "--dump"
  | keys => "--keys"
  | list => "--list"

def takes : Switch → Takes
  | historySize => .one
  | expression => .allThatFollows
  | prompt => .atMostOne
  | help | verbose | history | grammar | dump | keys | list => .nothing

def ofLetter? (c : Char) : Option Switch := all.find? fun s => s.letter? = some c

def ofLongName? (t : Text) : Option Switch := all.find? fun s => s.longName.toList = t

def startingWith (t : Text) : List Switch := all.filter fun s => t.isPrefixOf s.longName.toList

end Switch

/-! ## Arguments -/

/-- how the program ends without doing its work -/
inductive Ending
  | help
  | usage
deriving DecidableEq, Repr

def Ending.code : Ending → Nat
  | help => 0
  | usage => 2

/-- what an argument is: no option, one by its letter or by its long name with what is attached to
it, or what looks like an option and is none -/
inductive WordKind
  | plain
  | short (s : Switch) (attached : Option Text)
  | long (s : Switch) (attached : Option Text)
  | unknown
deriving DecidableEq, Repr

structure Word where
  text : Text
  kind : WordKind
deriving DecidableEq, Repr

/-- digits with at most one point in front of the last of them, and perhaps a line end -/
def isPlainNumber (t : Text) : Bool :=
  let t := if t.getLast? = some '\n' then t.dropLast else t
  match t.dropWhile isValuedDigit with
  | [] => !t.isEmpty
  | '.' :: r => !r.isEmpty && r.all isValuedDigit
  | _ => false

/-- Negative numbers and texts with a space in them are no options, even unknown ones. -/
def kindOfOther (t : Text) : WordKind :=
  if isPlainNumber (t.drop 1) || t.contains ' ' then .plain else .unknown

def splitAtEquals (t : Text) : Text × Option Text :=
  match t.dropWhile (· ≠ '=') with
  | [] => (t, none)
  | _ :: r => (t.takeWhile (· ≠ '='), some r)

/-- what is attached to a letter, by the text behind it -/
def attached? : Text → Option Text
  | [] => none
  | '=' :: r => some r
  | r => some r

/-- what an argument is; a long name that can be completed in several ways makes no sense -/
def kindOf (t : Text) : Except Ending WordKind :=
  match t with
  | '-' :: '-' :: _ =>
    let (name, attached) := splitAtEquals t
    match Switch.ofLongName? name, Switch.startingWith name with
    | some s, _ => .ok (.long s attached)
    | none, [] => .ok (kindOfOther t)
    | none, [s] => .ok (.long s attached)
    | none, _ => .error .usage
  | '-' :: c :: r =>
    match Switch.ofLetter? c with
    | some s => .ok (.short s (attached? r))
    | none => .ok (kindOfOther t)
  | _ => .ok .plain

def Word.ofText (t : Text) : Except Ending Word := (kindOf t).map fun k => ⟨t, k⟩

/-! ## What options take -/

structure Given where
  option : Switch
  values : List Text
deriving DecidableEq, Repr

/-- the options in a word, whether something in it is no option, and the words left behind it -/
structure Resolved where
  given : List Given
  stray : Bool
  rest : List Word
deriving DecidableEq, Repr

def Resolved.cons (g : Given) (r : Resolved) : Resolved := { r with given := g :: r.given }

@[simp]
theorem Resolved.rest_cons (g : Given) (r : Resolved) : (r.cons g).rest = r.rest := rfl

def Switch.takeFrom (s : Switch) (words : List Word) : Except Ending Resolved :=
  match s.takes, words with
  | .nothing, ws => .ok ⟨[⟨s, []⟩], false, ws⟩
  | .one, ⟨t, .plain⟩ :: ws => .ok ⟨[⟨s, [t]⟩], false, ws⟩
  | .one, _ => .error .usage
  | .atMostOne, ⟨t, .plain⟩ :: ws => .ok ⟨[⟨s, [t]⟩], false, ws⟩
  | .atMostOne, ws => .ok ⟨[⟨s, []⟩], false, ws⟩
  | .allThatFollows, ws => .ok ⟨[⟨s, ws.map Word.text⟩], false, []⟩

/-- the two dashes behind which no argument is an option -/
def separator : Text := ['-', '-']

/-- an option with what is attached to it; two dashes are no value, but they can be an expression -/
def Switch.withAttached (s : Switch) (t : Text) : Given :=
  ⟨s, if t = separator && s.takes ≠ .allThatFollows then [] else [t]⟩

/-- An option by its letter with an attached text.  The text is what the option takes; where it
takes nothing, the text goes on with the letter of another option. -/
def Switch.resolveShort (s : Switch) (attached : Text) (words : List Word) :
    Except Ending Resolved :=
  if s.takes ≠ .nothing then .ok ⟨[s.withAttached attached], false, words⟩
  else
    match attached with
    | [] => .error .usage
    | c :: r =>
      match Switch.ofLetter? c, r with
      | none, _ => .error .usage
      | some s', [] => (s'.takeFrom words).map (.cons ⟨s, []⟩)
      | some s', d :: r' => (s'.resolveShort (d :: r') words).map (.cons ⟨s, []⟩)

/-- the options in a word with what they take; none in a word that is no option -/
def Word.resolve (w : Word) (words : List Word) : Except Ending Resolved :=
  match w.kind with
  | .plain | .unknown => .ok ⟨[], true, words⟩
  | .short s (some t) => s.resolveShort t words
  | .long s (some t) =>
    if s.takes = .nothing then .error .usage else .ok ⟨[s.withAttached t], false, words⟩
  | .short s none | .long s none => s.takeFrom words

private theorem exists_of_map_eq_ok {α β ε : Type} {f : α → β} {x : Except ε α} {b : β}
    (h : x.map f = .ok b) : ∃ a, x = .ok a ∧ f a = b := by
  cases x with
  | error e => cases h
  | ok a => exact ⟨a, rfl, Except.ok.inj h⟩

theorem Switch.length_takeFrom_le {s : Switch} {ws : List Word} {r : Resolved}
    (h : s.takeFrom ws = .ok r) : r.rest.length ≤ ws.length := by
  unfold Switch.takeFrom at h
  split at h <;> cases h <;> simp

theorem Switch.length_resolveShort_le {s : Switch} {t : Text} {ws : List Word} {r : Resolved}
    (h : s.resolveShort t ws = .ok r) : r.rest.length ≤ ws.length := by
  fun_induction Switch.resolveShort s t ws generalizing r with
  | case1 => cases h; exact Nat.le_refl _
  | case2 => cases h
  | case3 => cases h
  | case4 =>
    obtain ⟨a, ha, rfl⟩ := exists_of_map_eq_ok h
    simpa using length_takeFrom_le ha
  | case5 _ _ _ _ _ _ _ ih =>
    obtain ⟨a, ha, rfl⟩ := exists_of_map_eq_ok h
    simpa using ih ha

theorem Word.length_resolve_le {w : Word} {ws : List Word} {r : Resolved}
    (h : w.resolve ws = .ok r) : r.rest.length ≤ ws.length := by
  unfold Word.resolve at h
  split at h
  · cases h
    exact Nat.le_refl _
  · cases h
    exact Nat.le_refl _
  · exact Switch.length_resolveShort_le h
  · split at h <;> cases h
    exact Nat.le_refl _
  · exact Switch.length_takeFrom_le h
  · exact Switch.length_takeFrom_le h

/-! ## The outcome -/

/-- what is done with a line; `grammar` and `list` show a table and read none -/
inductive Mode
  | evaluate
  | keys
  | dump
  | grammar
  | list
deriving DecidableEq, Repr

structure Options where
  verbose : Bool := false
  showHistory : Bool := false
  /-- the calculations that are kept; none where two dashes stand for the number -/
  historySize : Option Int := some 100
  expressions : Option (List Text) := none
  prompt : Option Text := none
  mode : Mode := .evaluate
deriving DecidableEq, Repr

def defaultPrompt : Text := ['>', ' ']

namespace Options

def choose (o : Options) (m : Mode) : Except Ending Options :=
  if o.mode = .evaluate || o.mode = m then .ok { o with mode := m } else .error .usage

/-- the options with one more taken into account; expressions and a prompt exclude each other -/
def take (o : Options) (g : Given) : Except Ending Options :=
  match g.option with
  | .help => .error .help
  | .verbose => .ok { o with verbose := true }
  | .history => .ok { o with showHistory := true }
  | .historySize =>
    match g.values.head? with
    | none => .ok { o with historySize := none }
    | some t =>
      match readInteger? t with
      | some n => if 0 < n then .ok { o with historySize := some n } else .error .usage
      | none => .error .usage
  | .expression =>
    if o.prompt.isSome then .error .usage else .ok { o with expressions := some g.values }
  | .prompt =>
    if o.expressions.isSome then .error .usage
    else .ok { o with prompt := some (g.values.head?.getD defaultPrompt) }
  | .grammar => o.choose .grammar
  | .dump => o.choose .dump
  | .keys => o.choose .keys
  | .list => o.choose .list

/-- the options of a row of words, and whether there is anything in them that belongs to none -/
def ofWords (o : Options) (stray : Bool) : List Word → Except Ending (Options × Bool)
  | [] => .ok (o, stray)
  | w :: ws =>
    match _h : w.resolve ws with
    | .error e => .error e
    | .ok r =>
      match r.given.foldlM take o with
      | .error e => .error e
      | .ok o => ofWords o (stray || r.stray) r.rest
termination_by ws => ws.length
decreasing_by
  have := Word.length_resolve_le ‹w.resolve ws = .ok r›
  simp only [List.length_cons]
  omega

def parse (args : List Text) : Except Ending Options :=
  match (args.takeWhile (· ≠ separator)).mapM Word.ofText with
  | .error e => .error e
  | .ok ws =>
    match ofWords {} (args.contains separator) ws with
    | .error e => .error e
    | .ok (o, stray) => if stray then .error .usage else .ok o

end Options
end PocketCalc.CommandLine
