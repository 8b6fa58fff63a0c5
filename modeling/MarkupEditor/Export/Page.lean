import MarkupEditor.Export.Html

/-!
# A page of its own

A page holds the highlighted lines together with the style rules that color
them.  Each layer has rules for its own class and for the narrower classes that
show the same color.
-/

namespace MarkupEditor.Page

/-- A style rule. -/
def rule (selector declarations : String) : String :=
  selector ++ " \x7b " ++ declarations ++ " \x7d\n"

/-- The rule that colors a class, with the name of what the class marks. -/
def colorRule (color : Color) (cssClass kind : String) : String :=
  "body ." ++ cssClass ++ " \x7b color: " ++ color.toShortText ++ " \x7d /* " ++ kind ++ " */\n"

def colorRules (color : Color) (kind : String) (classes : List (String × String)) : String :=
  String.join (classes.map fun (cssClass, narrower) => colorRule color cssClass (kind ++ narrower))

def commentClasses : List (String × String) :=
  [("c", ""), ("ch", ".Hashbang"), ("cm", ".Multiline"), ("cp", ".Preproc"),
   ("cpf", ".PreprocFile"), ("c1", ".Single"), ("cs", ".Special")]

def stringClasses : List (String × String) :=
  [("sa", ".Affix"), ("sb", ".Backtick"), ("sc", ".Char"), ("dl", ".Delimiter"), ("sd", ".Doc"),
   ("s2", ".Double"), ("se", ".Escape"), ("sh", ".Heredoc"), ("si", ".Interpol"),
   ("sx", ".Other"), ("sr", ".Regex"), ("s1", ".Single"), ("ss", ".Symbol")]

/-- The notice that generated pages and style sheets carry. -/
def generatedNotice : String :=
  "generated by Pygments <https://pygments.org/>\n"
  ++ "Copyright 2006-present by the Pygments team.\n"
  ++ "Licensed under the BSD license, see LICENSE for details.\n"

def lineNumberSpacing : String :=
  "background-color: transparent; padding-left: 5px; padding-right: 5px;"

def markedSpacing : String :=
  "background-color: #ffffc0; padding-left: 5px; padding-right: 5px;"

def styleSheet (palette : Palette) : String :=
  "/*\n" ++ generatedNotice ++ "*/\n"
  ++ rule "pre" "line-height: 125%;"
  ++ rule "td.linenos .normal" ("color: inherit; " ++ lineNumberSpacing)
  ++ rule "span.linenos" ("color: inherit; " ++ lineNumberSpacing)
  ++ rule "td.linenos .special" ("color: #000000; " ++ markedSpacing)
  ++ rule "span.linenos.special" ("color: #000000; " ++ markedSpacing)
  ++ rule "body .hll" "background-color: #ffffcc"
  ++ rule "body" "background: #ffffff;"
  ++ colorRules palette.comment "Comment" commentClasses
  ++ colorRule palette.quoted "s" "Literal.String"
  ++ colorRule palette.tag "nt" "Name.Tag"
  ++ colorRules palette.quoted "Literal.String" stringClasses

def header (palette : Palette) : String :=
  "<!DOCTYPE html PUBLIC \"-//W3C//DTD HTML 4.01//EN\"\n"
  ++ "   \"http://www.w3.org/TR/html4/strict.dtd\">\n"
  ++ "<!--\n" ++ generatedNotice ++ "-->\n"
  ++ "<html>\n<head>\n  <title></title>\n"
  ++ "  <meta http-equiv=\"content-type\" content=\"text/html; charset=None\">\n"
  ++ "  <style type=\"text/css\">\n" ++ styleSheet palette
  ++ "\n  </style>\n</head>\n<body>\n<h2></h2>\n\n"

/-- The whole page of a buffer. -/
def render (buffer : Buffer) : String :=
  header buffer.palette ++ Html.block buffer.tokens ++ "</body>\n</html>\n"

end MarkupEditor.Page
