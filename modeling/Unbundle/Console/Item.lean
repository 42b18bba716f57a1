import Unbundle.Console.Layout
import Unbundle.Console.Markup
/-
What goes to the console, and the lines that it shows.

A program puts marked texts and tables on the console; a table has a title, a row of headings and rows. The console shows lines,
of which those of a table have a part for each column. A text with a faulty mark is not shown at all, nor is anything behind it.
-/
namespace Unbundle

/-- a piece of console output, all of whose texts may hold style marks -/
inductive ConsoleItem where
  | line (text : String)
  | table (title : String) (headings : List String) (rows : List (List String))
  deriving DecidableEq, Repr

/-- a line on the console -/
inductive ConsoleLine where
  | text (line : String)
  | row (cells : List String)
  deriving DecidableEq, Repr

namespace ConsoleItem

/-- the lines of a marked text -/
def textLines (text : String) : Except MarkupError (List ConsoleLine) := do
  return (Layout.lines (← Markup.shown text)).map fun line => .text (String.ofList (Layout.expandTabs 0 line))

/-- refuse faulty marks in some rows: the first faulty text is looked for column by column -/
def checkColumns (rows : List (List String)) (count : Nat) : Except MarkupError Unit :=
  (List.range count).forM fun n => rows.forM fun row => discard (Markup.shown (row.getD n ""))

/-- the lines that an item shows -/
def lines : ConsoleItem → Except MarkupError (List ConsoleLine)
  | .line text => textLines text
  | .table title headings rows => do
    let rows := headings :: rows
    checkColumns rows headings.length
    let title ← textLines title
    let cells ← rows.mapM fun row => row.mapM Markup.shown
    return title ++ (Layout.tableLines cells).map fun parts => .row (parts.map String.ofList)

/-- the lines that items show up to the first faulty one, and what is wrong with that one -/
def linesOfAll : List ConsoleItem → List ConsoleLine × Option MarkupError
  | [] => ([], none)
  | item :: rest =>
    match item.lines with
    | .error cause => ([], some cause)
    | .ok first =>
      let (later, cause) := linesOfAll rest
      (first ++ later, cause)

end ConsoleItem

end Unbundle
