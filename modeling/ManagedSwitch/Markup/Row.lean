import ManagedSwitch.Markup.Tree
import ManagedSwitch.Text.Blank

/-!
# Rows of tables

A row counts if a table is somewhere around it.  The cells of a row are all the cells inside it,
also those of tables that stand in one of its cells; the text of a cell is the text of everything
inside it.
-/

namespace ManagedSwitch
namespace Markup

section Texts

mutual

def Node.chars : Node → List Char
  | .text cs => cs
  | .element _ children => charsOf children

/-- The characters inside several parts of a page. -/
def charsOf : List Node → List Char
  | [] => []
  | n :: rest => n.chars ++ charsOf rest

end

end Texts

section Cells

mutual

/-- The texts of the cells in a part of a page, in order. -/
def Node.cells : Node → List String
  | .text _ => []
  | .element name children =>
    (if name == "td" then [String.ofList (charsOf children)] else []) ++ cellsOf children

/-- The texts of the cells in several parts of a page. -/
def cellsOf : List Node → List String
  | [] => []
  | n :: rest => n.cells ++ cellsOf rest

end

end Cells

section Rows

mutual

/-- The rows in a part of a page, in order, as the texts of their cells. -/
def Node.rows (inTable : Bool) : Node → List (List String)
  | .text _ => []
  | .element name children =>
    (if inTable && name == "tr" then [cellsOf children] else []) ++
      rowsOf (inTable || name == "table") children

def rowsOf (inTable : Bool) : List Node → List (List String)
  | [] => []
  | n :: rest => n.rows inTable ++ rowsOf inTable rest

end

/-- The rows of a page, as the texts of their cells. -/
def rows (page : List Node) : List (List String) :=
  rowsOf false page

/-- The texts of cells with single spaces between words. -/
def cellTexts (row : List String) : List String :=
  row.map Text.normalize

end Rows

end Markup
end ManagedSwitch
