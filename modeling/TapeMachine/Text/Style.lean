import TapeMachine.Text.Blank
import TapeMachine.Text.ColorNames
import TapeMachine.Text.Decimal
import TapeMachine.Text.LowerCase

/-!
Styles of text: features, colours and a link, written as words in any order. Two texts that mean the
same style have the same normal form.
-/
namespace TapeMachine.Text

inductive Feature where
  | bold | dim | italic | underline | blink | blink2 | reverse | conceal | strike | underline2
  | frame | encircle | overline
  deriving DecidableEq, Repr

namespace Feature

/-- All features, in the order of the normal form. -/
def all : List Feature :=
  [bold, dim, italic, underline, blink, blink2, reverse, conceal, strike, underline2, frame,
    encircle, overline]

def name : Feature → String
  | bold => "bold"
  | dim => "dim"
  | italic => "italic"
  | underline => "underline"
  | blink => "blink"
  | blink2 => "blink2"
  | reverse => "reverse"
  | conceal => "conceal"
  | strike => "strike"
  | underline2 => "underline2"
  | frame => "frame"
  | encircle => "encircle"
  | overline => "overline"

def ofWord? : String → Option Feature
  | "b" => some bold
  | "d" => some dim
  | "i" => some italic
  | "u" => some underline
  | "r" => some reverse
  | "c" => some conceal
  | "s" => some strike
  | "uu" => some underline2
  | "o" => some overline
  | word => all.find? fun f => f.name == word

end Feature

structure Style where
  /-- What is said of features, each wanted or not, the last first. -/
  features : List (Feature × Bool)
  color : Option String
  background : Option String
  link : Option String
  deriving DecidableEq, Repr

inductive StyleFault where
  /-- Some word has no meaning. -/
  | noStyle
  /-- A colour of three numbers lacks one. -/
  | emptyNumber
  deriving DecidableEq, Repr

/-- The value of decimal digits in any script. -/
def decimalsValue (cs : List Char) : Nat :=
  cs.foldl (fun n c => n * 10 + (decimalValue? c).getD 0) 0

/-- Cuts a text at each of some mark; `part`, read backwards, comes before it. -/
def cutAt (mark : Char) (part : List Char) : List Char → List (List Char)
  | [] => [part.reverse]
  | c :: cs => if c = mark then part.reverse :: cutAt mark [] cs else cutAt mark (c :: part) cs

/-- What stands between a word with a bracket and the bracket at the end. -/
def enclosed? (opening cs : List Char) : Option (List Char) :=
  if opening.isPrefixOf cs && cs.getLast? == some ')' then
    some ((cs.drop opening.length).dropLast)
  else none

namespace Style

def plain : Style := ⟨[], none, none, none⟩

/-- Finds a colour by the name of one, as six digits, by number, or as three numbers. -/
def color? (word : String) : Except StyleFault String := do
  let cs := lower word.toList
  let name := String.ofList cs
  if name == "default" || colorNames.contains name then return name
  if let '#' :: digits := cs then
    if digits.length = 6 && digits.all fun d => d.isDigit || ('a' ≤ d && d ≤ 'f') then return name
  if let some digits := enclosed? "color(".toList cs then
    if 1 ≤ digits.length && digits.length ≤ 3 && digits.all Char.isDigit &&
        decimalsValue digits ≤ 255 then
      return name
  if let some inner := enclosed? "rgb(".toList cs then
    if !inner.isEmpty && inner.all fun c => isDecimal c || c == ',' then
      let parts := cutAt ',' [] inner
      if parts.length = 3 then
        if parts.any List.isEmpty then throw .emptyNumber
        if parts.all fun p => decimalsValue p ≤ 255 then return name
  throw .noStyle

/-- Reads a style from words. -/
def ofWords (style : Style) : List String → Except StyleFault Style
  | [] => .ok style
  | given :: words =>
    let word := String.ofList (lower given.toList)
    match word, words with
    | "on", next :: words => do
      let color ← color? next
      ofWords { style with background := some color } words
    | "not", next :: words =>
      match Feature.ofWord? next with
      | some f => ofWords { style with features := (f, false) :: style.features } words
      | none => .error .noStyle
    | "link", next :: words => ofWords { style with link := some next } words
    | _, words =>
      match Feature.ofWord? word with
      | some f => ofWords { style with features := (f, true) :: style.features } words
      | none => do
        let color ← color? word
        ofWords { style with color := some color } words

/-- The words of a text. -/
def wordsOf (word : List Char) : List Char → List String
  | [] => if word.isEmpty then [] else [String.ofList word.reverse]
  | c :: cs =>
    if isBlank c then
      if word.isEmpty then wordsOf [] cs else String.ofList word.reverse :: wordsOf [] cs
    else wordsOf (c :: word) cs

def parse (cs : List Char) : Except StyleFault Style :=
  if trim cs == "none".toList then .ok plain else ofWords plain (wordsOf [] cs)

/-- The words of a style in order. -/
def words (s : Style) : List String :=
  Feature.all.filterMap (fun f => (s.features.lookup f).map fun wanted =>
    if wanted then f.name else "not " ++ f.name) ++
  s.color.toList ++ (s.background.map ("on " ++ ·)).toList ++ (s.link.map ("link " ++ ·)).toList

/-- The normal form of the text of a style; what is no style is only trimmed and in lower case. -/
def normal (cs : List Char) : Except StyleFault String :=
  match parse cs with
  | .ok s => .ok (if s.words.isEmpty then "none" else " ".intercalate s.words)
  | .error .noStyle => .ok (String.ofList (lower (trim cs)))
  | .error e => .error e

end Style

end TapeMachine.Text
