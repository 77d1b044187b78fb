import LangBench.RuleBook

/-!
# The standard rule book

* `RuleGroupText.standard`: the rules that detection knows by itself;
* `RuleBook.standard`: their rule book.
-/

namespace LangBench

/-- What tells Objective-C from its neighbours: a directive at the beginning of a line. -/
def objectiveCPattern : String :=
  "^\\s*(@(interface|class|protocol|property|end|synchronised|selector|implementation)\\b"
    ++ "|#import\\s+.+\\.h[\">])"

/-- What tells C++ from C: a header of its library, a template, a class or a namespace. -/
def cppPattern : String :=
  "^\\s*(#\\s*include\\s*<(cstdint|string|vector|map|list|array|bitset|queue|stack"
    ++ "|forward_list|unordered_map|unordered_set|(i|o|io)stream)>"
    ++ "|template\\s*<|(class|namespace)\\s+\\w+\\s*[\x7b:])"

/-- What tells C# from Smalltalk: an import, a namespace or a comment of its kind. -/
def csharpPattern : String :=
  "^\\s*(using\\s+[A-Z][\\s\\w.]+;|namespace\\s*[\\w.]+\\s*(\\\x7b|;)|//)"

/-- The rules that detection knows by itself. -/
def RuleGroupText.standard : List RuleGroupText :=
  [{ extensions := [".h"]
     rules :=
      [{ language := "Objective-C", pattern := some objectiveCPattern },
       { language := "C++", pattern := some cppPattern }] },
   { extensions := [".pl"]
     rules :=
      [{ language := "Prolog", pattern := some "^[^#]*:-" },
       { language := "Perl", pattern := some "\\buse\\s+(?:strict\\b|v?\\d)|^\\s*(?:my|sub)\\s" }] },
   { extensions := [".m"]
     rules := [{ language := "Objective-C", pattern := some objectiveCPattern }] },
   { extensions := [".cs"]
     rules :=
      [{ language := "Smalltalk", pattern := some "![\\w\\s]+methodsFor: " },
       { language := "C#", pattern := some csharpPattern }] },
   { extensions := [".inc"]
     rules := [{ language := "PHP", pattern := some "^<\\?(?:php)?" }] },
   { extensions := [".ts"]
     rules :=
      [{ language := "XML", pattern := some "<TS\\b" },
       { language := "TypeScript" }] },
   { extensions := [".st"]
     rules :=
      [{ language := "Smalltalk", pattern := some "\\|\\s*[\\w\\s]+\\s*\\||\\^\\s*\\w+" }] }]

/-- The rule book of the standard rules. -/
def RuleBook.standard : Except DetectError RuleBook :=
  RuleBook.compile RuleGroupText.standard

end LangBench
