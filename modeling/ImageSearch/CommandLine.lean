import ImageSearch.Path

set_option autoImplicit false

namespace ImageSearch

/-- An option; `takesValue` is false for a switch, and a path must not be empty. -/
structure OptionForm where
  name : String
  takesValue : Bool
  isPath : Bool
  deriving Repr, DecidableEq

inductive CommandLevel where
  | outer
  | scan
  | search
  deriving Repr, DecidableEq

namespace CommandLevel

def shared : List OptionForm := [⟨"config", true, true⟩, ⟨"log-level", true, false⟩]

def options : CommandLevel → List OptionForm
  | .outer => shared
  | .scan =>
    [⟨"base-dir", true, true⟩, ⟨"index", true, true⟩, ⟨"query", true, false⟩,
      ⟨"demo-query", false, false⟩, ⟨"results", true, true⟩] ++ shared
  | .search => [⟨"index", true, true⟩, ⟨"results", true, true⟩] ++ shared

/-- How many words that are no options there may be. -/
def wordLimit : CommandLevel → Nat
  | .search => 1
  | _ => 0

def ofName? : String → Option CommandLevel
  | "scan" => some .scan
  | "search" => some .search
  | _ => none

end CommandLevel

/-- Why no command is carried out. -/
inductive CommandStop where
  | version
  | help
  | misuse
  deriving Repr, DecidableEq

/-- Options and words that were read; the text of a switch is empty. -/
structure CommandWords where
  options : List (String × String)
  words : List String
  deriving Repr, DecidableEq

namespace CommandWords

def empty : CommandWords := ⟨[], []⟩

def option? (w : CommandWords) (name : String) : Option String :=
  (w.options.find? (·.1 == name)).map (·.2)

def path? (w : CommandWords) (name : String) : Option Path := (w.option? name).map Path.mk

def addOption (w : CommandWords) (form : OptionForm) (value : String) :
    Except CommandStop CommandWords :=
  if (w.option? form.name).isSome || (form.isPath && value.isEmpty) then .error .misuse
  else .ok { w with options := w.options ++ [(form.name, value)] }

def addWord (w : CommandWords) (level : CommandLevel) (word : String) :
    Except CommandStop CommandWords :=
  if level.wordLimit ≤ w.words.length then .error .misuse
  else .ok { w with words := w.words ++ [word] }

end CommandWords

inductive CommandArg where
  | long (name : String) (value : Option String)
  | short (letters : List Char)
  | separator
  | word (text : String)
  deriving Repr, DecidableEq

def CommandArg.ofText (text : String) : CommandArg :=
  match text.toList with
  | ['-', '-'] => .separator
  | '-' :: '-' :: rest =>
    let name := String.ofList (rest.takeWhile (· != '='))
    match rest.dropWhile (· != '=') with
    | [] => .long name none
    | _ :: value => .long name (some (String.ofList value))
  | '-' :: c :: rest => .short (c :: rest)
  | _ => .word text

/-- An option by its name, with its value if that is part of the argument. -/
def longStop? (level : CommandLevel) (name : String) (value : Option String) :
    Option CommandStop :=
  if value.isSome then none
  else if name = "help" then some .help
  else if name = "version" ∧ level = .outer then some .version
  else none

def shortStop (level : CommandLevel) : List Char → CommandStop
  | 'h' :: _ => .help
  | 'V' :: _ => if level = .outer then .version else .misuse
  | _ => .misuse

def readPlainWords (level : CommandLevel) (w : CommandWords) (args : List String) :
    Except CommandStop CommandWords :=
  args.foldlM (fun w word => w.addWord level word) w

/-- Reads the arguments of one level; `waiting` is an option that still needs its value. On the
outer level the first word ends it: that word and the arguments behind it are given back. -/
def readLevel (level : CommandLevel) (w : CommandWords) (waiting : Option OptionForm) :
    List String → Except CommandStop (CommandWords × Option (String × List String))
  | [] => if waiting.isSome then .error .misuse else .ok (w, none)
  | arg :: rest =>
    match waiting, CommandArg.ofText arg with
    | some form, .word value => do readLevel level (← w.addOption form value) none rest
    | some _, _ => .error .misuse
    | none, .separator => do return (← readPlainWords level w rest, none)
    | none, .short letters => .error (shortStop level letters)
    | none, .word text =>
      if level = .outer then .ok (w, some (text, rest))
      else do readLevel level (← w.addWord level text) none rest
    | none, .long name value? =>
      match longStop? level name value? with
      | some stop => .error stop
      | none =>
        match level.options.find? (·.name == name), value? with
        | none, _ => .error .misuse
        | some form, some value =>
          if form.takesValue then do readLevel level (← w.addOption form value) none rest
          else .error .misuse
        | some form, none =>
          if form.takesValue then readLevel level w (some form) rest
          else do readLevel level (← w.addOption form "") none rest

inductive Command where
  | scan (baseDir index results : Option Path) (query : Option String)
  | search (query : String) (index results : Option Path)
  deriving Repr, DecidableEq

structure Invocation where
  config : Option Path
  logLevel : Option String
  command : Command
  deriving Repr, DecidableEq

/-- The query that is meant when a sample is asked for. -/
def demoQuery : String := "water|(salt&dough)"

/-- The command that options and words stand for. -/
def commandOf (level : CommandLevel) (w : CommandWords) : Except CommandStop Command :=
  match level with
  | .outer => .error .misuse
  | .scan =>
    let demo := (w.option? "demo-query").isSome
    if demo && (w.option? "query").isSome then .error .misuse
    else
      .ok (.scan (w.path? "base-dir") (w.path? "index") (w.path? "results")
        (if demo then some demoQuery else w.option? "query"))
  | .search =>
    match w.words with
    | [query] => .ok (.search query (w.path? "index") (w.path? "results"))
    | _ => .error .misuse

def helpStop : List String → CommandStop
  | [] => .help
  | [name] => if (CommandLevel.ofName? name).isSome || name = "help" then .help else .misuse
  | _ => .misuse

def Invocation.ofArgs (args : List String) : Except CommandStop Invocation := do
  let (outer, command?) ← readLevel .outer .empty none args
  match command? with
  | none => throw .misuse
  | some (name, rest) =>
    match CommandLevel.ofName? name with
    | none => throw (if name = "help" then helpStop rest else .misuse)
    | some level =>
      let (inner, _) ← readLevel level .empty none rest
      let command ← commandOf level inner
      return ⟨(inner.path? "config").or (outer.path? "config"),
        (inner.option? "log-level").or (outer.option? "log-level"), command⟩

end ImageSearch
