import NodeReport.Calendar.DayText
import NodeReport.Text.UrlEncoding

/-! # Links between pages

  The daily page takes a date, and the page of a network a code and a date.
-/

namespace NodeReport

/-- Address of the daily page. -/
def dailyPage : String := "reqlogdisplay"

/-- Address of the page of a network. -/
def networkPage : String := "reqlognetwork"

/-- Where the daily page of a day is. -/
def dailyTarget (d : Day) : String :=
  dailyPage ++ "?date=" ++ d.text

/-- Where the page of a network in a day's month is. -/
def networkTarget (code : String) (d : Day) : String :=
  networkPage ++ "?code=" ++ code ++ "&date=" ++ d.text

/-- A network's code from a request parameter: of the first eight characters the ASCII letters and
    digits, in upper case. -/
def cleanCode (text : String) : String :=
  String.ofList (((text.toList.take 8).filter Char.isAlphanum).map Char.toUpper)

/-! ### Templates -/

/-- The gap of a template that a code fills. -/
def codeGap : String := "\x7bcode\x7d"

/-- Fills each gap of a template. -/
def fillGaps (value : List Char) : List Char → List Char
  | '\x7b' :: 'c' :: 'o' :: 'd' :: 'e' :: '\x7d' :: rest => value ++ fillGaps value rest
  | c :: rest => c :: fillGaps value rest
  | [] => []

/-- The target that a template gives for a network's code. -/
def codeTarget (template code : String) : String :=
  String.ofList (fillGaps (Text.formEncode code).toList template.toList)

/-- The template of the pages of all networks in a day's month. -/
def networkTemplate (d : Day) : String :=
  networkTarget codeGap d

end NodeReport
