import DalvikPrepass.External.CharSet

/-!
# Sets with names

Some sets of ASCII characters have names by which patterns refer to them.
-/

namespace DalvikPrepass.CharSet

def space : CharSet :=
  ofRanges [('\t', '\r'), (' ', ' ')]

/-- The sets by their names. -/
def named : List (String × CharSet) :=
  [("alnum", ofRanges [('0', '9'), ('A', 'Z'), ('a', 'z')]),
    ("alpha", ofRanges [('A', 'Z'), ('a', 'z')]),
    ("ascii", range '\x00' '\x7f'),
    ("blank", ofRanges [('\t', '\t'), (' ', ' ')]),
    ("cntrl", ofRanges [('\x00', '\x1f'), ('\x7f', '\x7f')]),
    ("digit", digits),
    ("graph", range '!' '~'),
    ("lower", lowerLetters),
    ("print", range ' ' '~'),
    ("punct", ofRanges [('!', '/'), (':', '@'), ('[', '\x60'), ('\x7b', '~')]),
    ("space", space),
    ("upper", upperLetters),
    ("word", word),
    ("xdigit", ofRanges [('0', '9'), ('A', 'F'), ('a', 'f')])]

/-- The set with this name. -/
def ofName? (name : String) : Option CharSet :=
  named.lookup name

end DalvikPrepass.CharSet
