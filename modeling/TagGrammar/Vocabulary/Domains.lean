import TagGrammar.Vocabulary

/-!
# Built-in domains

The enumerated domains every vocabulary starts from, and the integer properties whose values are
keys of one of them.
-/

namespace TagGrammar.Builtin

def horizontalAlignment : Domain :=
  ⟨"org.httprpc.sierra.HorizontalAlignment",
    [⟨"LEFT", "left"⟩, ⟨"RIGHT", "right"⟩, ⟨"CENTER", "center"⟩, ⟨"LEADING", "leading"⟩,
    ⟨"TRAILING", "trailing"⟩]⟩

def verticalAlignment : Domain :=
  ⟨"org.httprpc.sierra.VerticalAlignment",
    [⟨"TOP", "top"⟩, ⟨"BOTTOM", "bottom"⟩, ⟨"CENTER", "center"⟩]⟩

def orientation : Domain :=
  ⟨"org.httprpc.sierra.UILoader.Orientation",
    [⟨"HORIZONTAL", "horizontal"⟩, ⟨"VERTICAL", "vertical"⟩]⟩

def focusLostBehavior : Domain :=
  ⟨"org.httprpc.sierra.UILoader.FocusLostBehavior",
    [⟨"COMMIT", "commit"⟩, ⟨"COMMIT_OR_REVERT", "commit-or-revert"⟩, ⟨"REVERT", "revert"⟩,
    ⟨"PERSIST", "persist"⟩]⟩

def horizontalScrollBarPolicy : Domain :=
  ⟨"org.httprpc.sierra.UILoader.HorizontalScrollBarPolicy",
    [⟨"AS_NEEDED", "as-needed"⟩, ⟨"NEVER", "never"⟩, ⟨"ALWAYS", "always"⟩]⟩

def verticalScrollBarPolicy : Domain :=
  ⟨"org.httprpc.sierra.UILoader.VerticalScrollBarPolicy",
    [⟨"AS_NEEDED", "as-needed"⟩, ⟨"NEVER", "never"⟩, ⟨"ALWAYS", "always"⟩]⟩

def tabPlacement : Domain :=
  ⟨"org.httprpc.sierra.UILoader.TabPlacement",
    [⟨"TOP", "top"⟩, ⟨"LEFT", "left"⟩, ⟨"BOTTOM", "bottom"⟩, ⟨"RIGHT", "right"⟩]⟩

def tabLayoutPolicy : Domain :=
  ⟨"org.httprpc.sierra.UILoader.TabLayoutPolicy",
    [⟨"WRAP", "wrap"⟩, ⟨"SCROLL", "scroll"⟩]⟩

def domains : List Domain :=
  [horizontalAlignment, verticalAlignment, orientation, focusLostBehavior,
    horizontalScrollBarPolicy, verticalScrollBarPolicy, tabPlacement, tabLayoutPolicy]

/-- The integer properties whose values are selector keys, with the domains of the keys. -/
def selectorDomains : List (String × String) :=
  [("horizontalAlignment", horizontalAlignment.key),
    ("verticalAlignment", verticalAlignment.key), ("orientation", orientation.key),
    ("focusLostBehavior", focusLostBehavior.key),
    ("horizontalScrollBarPolicy", horizontalScrollBarPolicy.key),
    ("verticalScrollBarPolicy", verticalScrollBarPolicy.key), ("tabPlacement", tabPlacement.key),
    ("tabLayoutPolicy", tabLayoutPolicy.key)]

end TagGrammar.Builtin
