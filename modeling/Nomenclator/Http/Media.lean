/-!
# Media types

The header that says what a body is names a type and a subtype, and behind them parameters. A
body is JSON if its type is `application` and either the subtype is `json`, whatever suffix it
has, or the suffix is.
-/

namespace Nomenclator.Http.Media

/-- The character may stand in a name. -/
def isToken (c : Char) : Bool :=
  c.isAlphanum || "!#$%&'*+-.^_\x60|~".toList.contains c

/-- The character may stand in a quoted value. -/
def isQuotable (c : Char) : Bool := 0x1F < c.toNat && c.toNat < 0x7F

/-- Drops blanks in front. -/
def dropSpaces (s : List Char) : List Char := s.dropWhile (· == ' ')

/-- The rest behind the closing quote of a value, which is not empty. -/
def behindQuoted (s : List Char) : Option (List Char) :=
  match s with
  | [] => none
  | c :: rest =>
    match rest.dropWhile (· != '"') with
    | '"' :: after =>
      if isQuotable c && (rest.takeWhile (· != '"')).all isQuotable then some after else none
    | _ => none

/-- The parameters behind a semicolon are well formed. Their number is bounded by the length of
the text, which is fuel enough. -/
def paramsFit : Nat → List Char → Bool
  | 0, _ => false
  | fuel + 1, s =>
    match dropSpaces s with
    | [] => true
    | s =>
      match s.takeWhile isToken, s.dropWhile isToken with
      | _ :: _, '=' :: '"' :: value =>
        match (behindQuoted value).map dropSpaces with
        | some [] => true
        | some (';' :: rest) => paramsFit fuel rest
        | _ => false
      | _ :: _, '=' :: value =>
        match value.takeWhile isToken, value.dropWhile isToken with
        | _, [] => true
        | _ :: _, ';' :: rest => paramsFit fuel rest
        | _, _ => false
      | _, _ => false

/-- A subtype without its suffix, and the suffix behind its last plus sign. -/
def splitSuffix (s : List Char) : List Char × Option (List Char) :=
  match s with
  | [] => ([], none)
  | c :: rest =>
    if rest.contains '+' then
      (c :: ((rest.reverse.dropWhile (· != '+')).drop 1).reverse,
        some (rest.reverse.takeWhile (· != '+')).reverse)
    else (s, none)

/-- The media type is a kind of JSON. -/
def isJson (text : String) : Bool :=
  let s := text.toList.map Char.toLower
  match s.takeWhile isToken, s.dropWhile isToken with
  | kind, '/' :: rest =>
    let subtype := rest.takeWhile isToken
    let tailFits := match rest.dropWhile isToken with
      | [] => true
      | ';' :: params => paramsFit (params.length + 1) params
      | _ => false
    let (name, suffix) := splitSuffix subtype
    kind == "application".toList && !subtype.isEmpty && tailFits
      && (name == "json".toList || suffix == some "json".toList)
  | _, _ => false

end Nomenclator.Http.Media
