import TenonVpn.Pattern
import TenonVpn.Text

/-! `HTTPURL`, the reader of URLs that a header falls back on, and what its regular expressions are made of.
They do not mind the case. A character stands for one Unicode scalar here; which scalars are word
characters and digits is a parameter. -/
namespace TenonVpn

namespace Text

/-- A line terminator of regular expressions, which a dot does not match. -/
def isTerminator (c : Char) : Bool :=
  ('\n' ≤ c && c ≤ '\r') || c = '\u0085' || c = '\u2028' || c = '\u2029'

def inline (c : Char) : Bool := !isTerminator c

/-- A letter in both cases, or another character as it is. -/
def letter (c d : Char) : Bool := d.toLower = c

/-- The one letter of the expressions that has a third form, which is long. -/
def letterS (c : Char) : Bool := letter 's' c || c = '\u017f'

def word (text : Text) : Pattern Char := .word (text.map letter)

/-- A dollar looks for the end, or for a line terminator that is the last. No line holds `\r\n`, so that it is not
asked between the two. -/
def atEnd : Text → Bool
  | [] => true
  | [c] => isTerminator c
  | rest => rest = ['\r','\n']

end Text

structure HTTPURL where
  scheme : Option Text
  host : Option Text
  port : Option Int
  relativePath : Text
deriving DecidableEq

namespace HTTPURL
variable (wordCharacter decimalDigit : Char → Bool)

def hostCharacter (c : Char) : Bool := wordCharacter c || c = '.' || c = '-'

/-- `^(?:(?:(https?):\/\/)?([\w\.-]+)(?::(\d+))?)?(?:\/(.*))?$`, from the start of the text. -/
def urlreg : Pattern Char :=
  let scheme := .sequence (.group 1 (.sequence (Text.word "http".toList) (.optional (.one Text.letterS))))
    (Text.word "://".toList)
  let host := .group 2 (.several (hostCharacter wordCharacter))
  let port := .sequence (Text.word ":".toList) (.group 3 (.several decimalDigit))
  let path := .sequence (Text.word "/".toList) (.group 4 (.many Text.inline))
  .sequence (.optional (.sequence (.optional scheme) (.sequence host (.optional port))))
    (.sequence (.optional path) (.ending Text.atEnd))

/-- `init?(string:)`. The port is none where its digits are too many, or are no ASCII digits. -/
def init (url : Text) : Option HTTPURL := do
  let result ← ((urlreg wordCharacter decimalDigit).tries url).head?
  pure {
    scheme := result.range 1
    host := result.range 2
    port := (result.range 3).bind Text.int64
    relativePath := (result.range 4).getD []}

example : init (fun c => c.isAlphanum || c = '_') Char.isDigit "HTTPS://a-b.c:80/d/e".toList =
    some ⟨some "HTTPS".toList,some "a-b.c".toList,some 80,"d/e".toList⟩ := by decide +kernel

example : init (fun c => c.isAlphanum || c = '_') Char.isDigit "http://a:b/".toList = none := by decide +kernel

end HTTPURL
end TenonVpn
