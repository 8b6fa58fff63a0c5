import MarkupEditor.Proofs.Editor.Operations
import MarkupEditor.Proofs.Storage.Disk
import MarkupEditor.Proofs.Storage.Files

/-!
# How an editor fails

Whatever has been done with an editor of an empty text, its cursor is in the text, it can be
drawn, and every key is answered.  There are two exceptions, and a NUL character makes both.
Under a name that no disk can hold, which an editor can only have from its start, the text
cannot be saved, and this is not turned into an answer.  And a console takes no text with
such a character, so a file that holds one can be loaded but not shown.
-/

namespace MarkupEditor

namespace Editor

variable {palette : Palette} {editor : Editor}

/-! ### Saving -/

end Editor

end MarkupEditor
