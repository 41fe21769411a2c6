import MailTriage.Console.Markup

namespace MailTriage

structure Table where
  title : String
  columns : List String
  rows : List (List String)
  deriving DecidableEq, Repr

inductive Output where
  | line (text : String)
  | table (t : Table)
  deriving DecidableEq, Repr

namespace Output

def ofMarkup (s : String) : Except Markup.Error Output :=
  (Markup.render s).map line

/-- A text that is to be shown as it is, written as a text with tags. -/
def plain (s : String) : String :=
  String.ofList (Markup.escape s.toList)

def tableOfMarkup (t : Table) : Except Markup.Error Output := do
  let title ← Markup.render t.title
  let rows ← t.rows.mapM fun row => row.mapM Markup.render
  return table { t with title := title, rows := rows }

end Output

end MailTriage
