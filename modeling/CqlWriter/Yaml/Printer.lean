import CqlWriter.Text.Base64
import CqlWriter.Text.Quoted
import CqlWriter.Yaml.Scalar
import CqlWriter.Yaml.Character

/-!
# Writing YAML

A flat mapping is written with one entry a line, or more where a text has lines of its own. A text
is written as simply as it can be read back: as it is, between single quotes, between double quotes,
or, if it has line breaks, as a block of lines.
-/

namespace CqlWriter.Yaml

/-- The styles of a scalar. -/
inductive ScalarStyle where
  | plain
  | single
  | double
  | literal
  deriving DecidableEq, Repr

/-! ### Classes of characters -/

/-- Whether a character may be written as it is. The characters beyond the basic plane may not. -/
def isWritable (c : Char) : Bool :=
  let n := c.toNat
  n = 0x0a || (0x20 ≤ n && n ≤ 0x7e) || (0xa0 ≤ n && n ≤ 0xfffd && n ≠ 0xfeff)

/-- The characters that mean something at the start of a scalar. -/
def startMarks : List Char :=
  ['#', ',', '[', ']', '\x7b', '\x7d', '&', '*', '!', '|', '>', '\'', '"', '%', '@', '\x60']

/-- Whether a character would be taken for punctuation between its neighbours. -/
def isMark (before : Option Char) (c : Char) (after : Option Char) : Bool :=
  match before with
  | none => startMarks.contains c || ((c = '?' || c = ':' || c = '-') && after.all isBlank)
  | some b =>
    (c = ':' && after.all isBlank)
    || (c = '#' && (isGap b))

/-- Whether any character would be taken for punctuation, given the character before. -/
def hasMark (before : Option Char) : List Char → Bool
  | [] => false
  | c :: rest => isMark before c rest.head? || hasMark (some c) rest

/-- Whether two characters in a row are of the given classes. -/
def hasPair (p q : Char → Bool) : List Char → Bool
  | a :: b :: rest => (p a && q b) || hasPair p q (b :: rest)
  | _ => false

/-! ### Choice of a style -/

/-- Whether text between single quotes can be read back. -/
def fitsSingle (cs : List Char) : Bool :=
  cs.all isWritable && !hasPair (· = ' ') isBreak cs && !hasPair isBreak (· = ' ') cs

/-- Whether text without quotes can be read back on a line. -/
def fitsPlain (cs : List Char) : Bool :=
  let edge (c : Option Char) : Bool := c.any fun c => c = ' '
  fitsSingle cs && !cs.any isBreak && !edge cs.head? && !edge cs.getLast? && !hasMark none cs
  && !("---" : Text).isPrefixOf (Text.ofChars cs) && !("..." : Text).isPrefixOf (Text.ofChars cs)

/-- Whether text as a block of lines can be read back. -/
def fitsLiteral (cs : List Char) : Bool :=
  cs.all (fun c => isWritable c || c = '\t') && !hasPair (· = ' ') isBreak cs
  && cs.getLast? ≠ some ' '

/-- The words that some readers take for truth values. -/
def oldTruthWords : List Text :=
  ["y", "Y", "yes", "Yes", "YES", "on", "On", "ON", "n", "N", "no", "No", "NO", "off", "Off", "OFF"]

/-- Whether a text is a group of digits of a number in base sixty: a number below sixty, with a zero
in front or not. -/
def isSexagesimal : Text → Bool
  | [a] => Integer.isDigit a
  | [a, b] => Integer.isDigit a && a ≤ Text.byte '5' && Integer.isDigit b
  | _ => false

/-- Whether a byte is a digit or an underscore. -/
def isSpacedDigit (b : UInt8) : Bool :=
  Integer.isDigit b || b = Text.byte '_'

/-- Whether a text is the first group of digits of a number in base sixty, with a sign or not. -/
def isLeadingGroup (t : Text) : Bool :=
  match t with
  | 0x2b :: rest | 0x2d :: rest => rest.head?.any Integer.isDigit && rest.all isSpacedDigit
  | t => t.head?.any Integer.isDigit && t.all isSpacedDigit

/-- Whether some readers take a text for a number in base sixty. -/
def isBaseSixty (t : Text) : Bool :=
  let (whole, fraction) := (Text.cut? (Text.byte '.') t).getD (t, [])
  match Text.split (Text.byte ':') whole with
  | first :: group :: groups =>
    isLeadingGroup first && (group :: groups).all isSexagesimal && fraction.all isSpacedDigit
  | _ => false

/-- Whether a text without quotes would be read as a text. -/
def readsAsText (t : Text) : Bool :=
  (Scalar.resolve true t).tag = .str && !isBaseSixty t && !oldTruthWords.contains t

/-- The style in which a text is written, if `asText` tells whether it would be read as a text
without quotes. -/
def styleOf (asText : Bool) (cs : List Char) : ScalarStyle :=
  if cs.contains '\n' then (if fitsLiteral cs then .literal else .double)
  else if !asText then .double
  else if fitsPlain cs then .plain
  else if fitsSingle cs then .single
  else .double

/-! ### Layout -/

/-- The indentation of lines inside an entry. -/
def indentation : Text := "    "

/-- The letters for characters between double quotes. -/
def escapes : List (Char × Char) :=
  [('\x00', '0'), ('\x07', 'a'), ('\x08', 'b'), ('\t', 't'), ('\n', 'n'), ('\x0b', 'v'),
    ('\x0c', 'f'), ('\x0d', 'r'), ('\x1b', 'e'), ('"', '"'), ('\\', '\\'), ('\u0085', 'N'),
    ('\u00a0', '_'), ('\u2028', 'L'), ('\u2029', 'P')]

/-- A letter of a number in base sixteen in upper case. -/
def upperHexLetter (b : UInt8) : UInt8 :=
  if Text.byte 'a' ≤ b && b ≤ Text.byte 'f' then b - 0x20 else b

/-- A character behind a backslash. -/
def escaped (c : Char) : Text :=
  let n := c.toNat
  let hex (width : Nat) : Text := (Text.hex width n).map upperHexLetter
  match escapes.lookup c with
  | some letter => Text.ofChars ['\\', letter]
  | none =>
    if n ≤ 0xff then "\\x" ++ hex 2 else if n ≤ 0xffff then "\\u" ++ hex 4 else "\\U" ++ hex 8

/-- Text between double quotes. A text that starts with a byte order mark is escaped throughout. -/
def doubleQuoted (cs : List Char) : Text :=
  let all := cs.head? = some byteOrderMark
  let char (c : Char) : Text :=
    if all || !isWritable c || isBreak c || c = '"' || c = '\\' then escaped c
    else Text.ofChars [c]
  "\"" ++ cs.flatMap char ++ "\""

/-- Text whose lines are indented, but for empty ones. -/
def indented (atStart : Bool) : List Char → Text
  | [] => []
  | c :: rest =>
    if isBreak c then Text.ofChars [c] ++ indented true rest
    else (if atStart then indentation else []) ++ Text.ofChars [c] ++ indented false rest

/-- Double the single quotes in a text. -/
def quotesDoubled (cs : List Char) : List Char :=
  cs.flatMap fun c => if c = '\'' then ['\'', '\''] else [c]

/-- Text between single quotes. -/
def singleQuoted (cs : List Char) : Text :=
  "'" ++ indented false (quotesDoubled cs) ++ "'"

/-- The mark that tells what becomes of the line breaks at the end of a block of lines. -/
def endMark (cs : List Char) : Text :=
  match cs.reverse with
  | [] => "-"
  | last :: before =>
    if !isBreak last then "-"
    else if before.head?.all isBreak then "+"
    else []

/-- Text as a block of lines. The indentation is told if the text itself starts with a blank or a
line break. -/
def literalBlock (cs : List Char) : Text :=
  let startsLine := cs.head?.any isBreak
  let hint : Text := if startsLine || cs.head? = some ' ' then "4" else []
  let header : Text := "|" ++ hint ++ endMark cs
  (if startsLine then header else header ++ "\n") ++ indented true cs

/-- The line breaks that a text may end in as it is. -/
def lineBreaks : List Text := ["\n", "\u2028", "\u2029"]

/-- A text that ends a line. -/
def endingLine (t : Text) : Text :=
  if lineBreaks.any (Text.endsWith t) then t else t ++ "\n"

/-- A text in a style. -/
def styled (cs : List Char) : ScalarStyle → Text
  | .plain => Text.ofChars cs
  | .single => singleQuoted cs
  | .double => doubleQuoted cs
  | .literal => literalBlock cs

/-- Cut a text into lines of seventy letters; the last may be shorter. -/
def foldLines : Text → Text
  | [] => []
  | b :: rest => b :: rest.take 69 ++ "\n" ++ foldLines (rest.drop 69)
  termination_by t => t.length
  decreasing_by simp only [List.length_drop, List.length_cons]; omega

/-- Bytes in base 64, in lines of seventy letters if one does not hold them. -/
def binaryText (t : Text) : Text :=
  let letters := t.toBase64
  if letters.length < 70 then letters else foldLines letters

/-- The value of an entry that is a text. Bytes that are no text are written in base 64. -/
def textValue (t : Text) : Text :=
  match t.chars? with
  | some cs => styled cs (styleOf (readsAsText t) cs)
  | none =>
    let cs := (binaryText t).map fun b => Char.ofNat b.toNat
    "!!binary " ++ styled cs (styleOf true cs)

/-- An entry of a mapping. -/
def entry (key value : Text) : Text :=
  endingLine (key ++ ": " ++ value)

/-- The value of an entry that is a truth value. -/
def flagValue (b : Bool) : Text :=
  if b then "true" else "false"

end CqlWriter.Yaml
