/-!
# Cells of a table

A table of characters is written as a text of many lines. Blanks and line breaks lay it out, and are
no cells of it.
-/

namespace LogFollow.Text.Table

/-- The cells of a table. -/
def cells (table : String) : List Char := table.toList.filter fun c => c != ' ' && c != '\n'

end LogFollow.Text.Table
