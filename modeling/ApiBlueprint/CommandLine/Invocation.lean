import ApiBlueprint.Path.Basic

/-!
Arguments of the command line. Options may stand before the command and behind it; one behind it
counts more. After `--` every argument is a plain value.
-/

namespace ApiBlueprint

inductive PrintFormat where
  | json
  | apib
  deriving DecidableEq, Repr

inductive Command where
  | compile (paths : List Path) (format : Option PrintFormat)
  | parse (path : Path)
  | dist (source : Path) (target : Option Path)
  | glob (pattern : Option Text)
  deriving DecidableEq, Repr

structure Invocation where
  config : Option Path := none
  seed : Option UInt64 := none
  verbose : Bool := false
  command : Command
  deriving DecidableEq, Repr

inductive Request where
  | run (invocation : Invocation)
  | version
  | help
  | misuse
  deriving DecidableEq, Repr

namespace Arguments

def dash : UInt8 := 0x2D

inductive Level where
  | top
  | compile
  | parse
  | dist
  | glob
  deriving DecidableEq, Repr

def Level.ofName? (name : OsText) : Option Level :=
  if name = "compile".toList then some .compile
  else if name = "parse".toList then some .parse
  else if name = "dist".toList then some .dist
  else if name = "glob".toList then some .glob
  else none

structure Options where
  config : Option Path := none
  seed : Option UInt64 := none
  verbose : Bool := false
  format : Option PrintFormat := none
  deriving DecidableEq, Repr

def Options.over (inner outer : Options) : Options where
  config := inner.config <|> outer.config
  seed := inner.seed <|> outer.seed
  verbose := inner.verbose || outer.verbose
  format := inner.format

def path? (value : OsText) : Option Path := if value.isEmpty then none else some ⟨value⟩

/-- A natural number of at most 64 bits in decimal digits; a plus may stand before them. -/
def seed? (value : Text) : Option UInt64 :=
  let digits :=
    match value with
    | '+' :: rest => rest
    | _ => value
  if digits.isEmpty || !digits.all Text.isDigit || Nat.pow 2 64 ≤ Text.decimal digits then none
  else some (UInt64.ofNat (Text.decimal digits))

def printFormat? (value : OsText) : Option PrintFormat :=
  if value = "json".toList then some .json
  else if value = "apib".toList then some .apib
  else none

def setVerbose (options : Options) : Option Options :=
  if options.verbose then none else some { options with verbose := true }

def takesValue (level : Level) (name : OsText) : Bool :=
  name = "config".toList || name = "seed".toList || (level = .compile && name = "format".toList)

def setValue (options : Options) (name value : OsText) : Option Options :=
  if name = "config".toList then
    if options.config.isSome then none
    else (path? value).map fun path => { options with config := some path }
  else if name = "seed".toList then
    if options.seed.isSome then none
    else (OsText.text? value >>= seed?).map fun seed => { options with seed := some seed }
  else if options.format.isSome then none
  else (printFormat? value).map fun format => { options with format := some format }

inductive Next where
  | value (value : OsText) (rest : List OsText) (options : Options)
  /-- Only plain values follow. -/
  | values (rest : List OsText) (options : Options)
  | version
  | help
  | misuse

def letters (level : Level) (options : Options) : OsText → Except Next Options
  | [] => .ok options
  | letter :: rest =>
    if letter = 'v'.toUInt8 then
      match setVerbose options with
      | some options => letters level options rest
      | none => .error .misuse
    else if letter = 'h'.toUInt8 then .error .help
    else if letter = 'V'.toUInt8 && level = .top then .error .version
    else .error .misuse

def flag (level : Level) (options : Options) (name : OsText) : Except Next Options :=
  if name = "help".toList then .error .help
  else if name = "version".toList && level = .top then .error .version
  else if name = "verbose".toList then
    match setVerbose options with
    | some options => .ok options
    | none => .error .misuse
  else .error .misuse

/-- Arguments that start with a dash are options, except a dash alone. -/
def isOption (argument : OsText) : Bool := argument.head? = some dash && argument ≠ [dash]

def next (level : Level) (options : Options) : List OsText → Next
  | [] => .values [] options
  | argument :: rest =>
    if argument = [dash, dash] then .values rest options
    else if !isOption argument then .value argument rest options
    else if [dash, dash].isPrefixOf argument then
      match Text.splitFirst (· = '='.toUInt8) (argument.drop 2) with
      | some (name, value) =>
        if takesValue level name then
          match setValue options name value with
          | some options => next level options rest
          | none => .misuse
        else .misuse
      | none =>
        if takesValue level (argument.drop 2) then
          match rest with
          | [] => .misuse
          | value :: rest =>
            if isOption value then .misuse
            else
              match setValue options (argument.drop 2) value with
              | some options => next level options rest
              | none => .misuse
        else
          match flag level options (argument.drop 2) with
          | .ok options => next level options rest
          | .error found => found
    else
      match letters level options (argument.drop 1) with
      | .ok options => next level options rest
      | .error found => found

def Level.room : Level → Option Nat
  | .top => some 0
  | .compile => none
  | .parse => some 1
  | .dist => some 2
  | .glob => some 1

/-- Adds a value to those of a command. Only a pattern may be empty, and it must be a text. -/
def addValue (level : Level) (values : List OsText) (value : OsText) :
    Except Request (List OsText) :=
  let allowed := if level = .glob then (OsText.text? value).isSome else !value.isEmpty
  if allowed && level.room.all (values.length < ·) then
    .ok (values ++ [value])
  else .error .misuse

def collect (level : Level) :
    Nat → Options → List OsText → List OsText → Except Request (List OsText × Options)
  | 0, _, _, _ => .error .misuse
  | fuel + 1, options, values, arguments =>
    match next level options arguments with
    | .value value rest options => do
      collect level fuel options (← addValue level values value) rest
    | .values rest options => do return (← rest.foldlM (addValue level) values, options)
    | .version => .error .version
    | .help => .error .help
    | .misuse => .error .misuse

def command? (level : Level) (values : List OsText) (options : Options) : Option Command :=
  match level, values with
  | .compile, first :: rest => some (.compile ((first :: rest).map Path.mk) options.format)
  | .parse, [path] => some (.parse ⟨path⟩)
  | .dist, [source] => some (.dist ⟨source⟩ none)
  | .dist, [source, target] => some (.dist ⟨source⟩ (some ⟨target⟩))
  | .glob, [] => some (.glob none)
  | .glob, [pattern] => (OsText.text? pattern).map fun pattern => .glob (some pattern)
  | _, _ => none

def helpOn (arguments : List OsText) : Request :=
  match arguments with
  | [] => .help
  | [name] => if (Level.ofName? name).isSome || name = "help".toList then .help else .misuse
  | _ => .misuse

def ofCommand (level : Level) (outer : Options) (arguments : List OsText) : Request :=
  match collect level (arguments.length + 1) {} [] arguments with
  | .error request => request
  | .ok (values, inner) =>
    match command? level values inner with
    | none => .misuse
    | some command =>
      let options := inner.over outer
      .run ⟨options.config, options.seed, options.verbose, command⟩

end Arguments

namespace Request

def ofArguments (arguments : List OsText) : Request :=
  match Arguments.next .top {} arguments with
  | .version => version
  | .help => help
  | .misuse => misuse
  | .values _ _ => misuse
  | .value name rest options =>
    match Arguments.Level.ofName? name with
    | some level => Arguments.ofCommand level options rest
    | none => if name = "help".toList then Arguments.helpOn rest else misuse

end Request
end ApiBlueprint
