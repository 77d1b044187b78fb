import LangBench.Catalogue.Basic

/-!
# The standard catalogue

* `Language.standard`: the languages that detection knows by itself;
* `Catalogue.standard`: their catalogue.
-/

namespace LangBench

/-- The languages that detection knows by itself. -/
def Language.standard : List Language :=
  [{ name := "C",
     extensions := [".c", ".cats", ".h", ".idc"],
     interpreters := ["tcc"] },
   { name := "C++",
     aliases := ["cpp"],
     extensions := [".cpp", ".c++", ".cc", ".cp", ".cxx", ".h", ".h++", ".hh", ".hpp", ".hxx",
       ".inl", ".ipp", ".tcc", ".tpp"] },
   { name := "Objective-C",
     aliases := ["obj-c", "objc", "objectivec"],
     extensions := [".m", ".h"] },
   { name := "C#",
     aliases := ["csharp"],
     extensions := [".cs", ".cake", ".csx"] },
   { name := "Go",
     aliases := ["golang"],
     extensions := [".go"] },
   { name := "Rust",
     aliases := ["rs"],
     extensions := [".rs", ".rs.in"] },
   { name := "Python",
     aliases := ["python3", "rusthon"],
     extensions := [".py", ".bzl", ".gyp", ".pyi", ".pyw", ".wsgi"],
     filenames := ["BUILD", "SConscript", "SConstruct", "Snakefile", "wscript"],
     interpreters := ["python", "python2", "python3"] },
   { name := "Ruby",
     aliases := ["jruby", "macruby", "rake", "rb", "rbx"],
     extensions := [".rb", ".builder", ".gemspec", ".jbuilder", ".rake", ".rbx", ".ru",
       ".thor"],
     filenames := ["Gemfile", "Rakefile", "Guardfile", "Podfile", "Vagrantfile", ".irbrc",
       ".pryrc"],
     interpreters := ["ruby", "jruby", "macruby", "rbx"] },
   { name := "Perl",
     aliases := ["cperl"],
     extensions := [".pl", ".al", ".cgi", ".perl", ".ph", ".plx", ".pm", ".psgi", ".t"],
     filenames := ["Makefile.PL", "cpanfile"],
     interpreters := ["perl"] },
   { name := "Prolog",
     extensions := [".pl", ".pro", ".prolog", ".yap"],
     interpreters := ["swipl", "yap"] },
   { name := "PHP",
     aliases := ["inc"],
     extensions := [".php", ".inc", ".phps", ".phpt", ".phtml"],
     filenames := [".php_cs", ".php_cs.dist"],
     interpreters := ["php"] },
   { name := "JavaScript",
     aliases := ["js", "node"],
     extensions := [".js", ".cjs", ".jsx", ".mjs", ".jsm"],
     filenames := ["Jakefile"],
     interpreters := ["node", "nodejs", "rhino", "v8"] },
   { name := "TypeScript",
     aliases := ["ts"],
     extensions := [".ts", ".cts", ".mts", ".d.ts"],
     interpreters := ["deno", "ts-node"] },
   { name := "Java",
     extensions := [".java", ".jav"] },
   { name := "Kotlin",
     extensions := [".kt", ".ktm", ".kts"] },
   { name := "Scala",
     extensions := [".scala", ".kojo", ".sbt", ".sc"],
     interpreters := ["scala"] },
   { name := "Shell",
     aliases := ["sh", "shell-script", "bash", "zsh"],
     extensions := [".sh", ".bash", ".bats", ".command", ".ksh", ".tmux", ".zsh"],
     filenames := [".bashrc", ".bash_profile", ".profile", ".zshrc", "PKGBUILD"],
     interpreters := ["ash", "bash", "dash", "ksh", "mksh", "pdksh", "sh", "zsh"] },
   { name := "Lua",
     extensions := [".lua", ".nse", ".rockspec"],
     interpreters := ["lua"] },
   { name := "Makefile",
     aliases := ["make", "bsdmake", "mf"],
     extensions := [".mak", ".make", ".mk", ".mkfile"],
     filenames := ["Makefile", "makefile", "GNUmakefile", "Kbuild", "Makefile.am",
       "Makefile.in"],
     interpreters := ["make"] },
   { name := "Dockerfile",
     aliases := ["docker"],
     extensions := [".dockerfile"],
     filenames := ["Dockerfile", "Containerfile"] },
   { name := "Markdown",
     aliases := ["md", "pandoc"],
     extensions := [".md", ".markdown", ".mdown", ".mkd", ".mkdn", ".ronn"],
     filenames := ["contents.lr"] },
   { name := "JSON",
     aliases := ["geojson", "jsonl"],
     extensions := [".json", ".geojson", ".jsonl", ".webmanifest"],
     filenames := [".arcconfig", "composer.lock", "flake.lock"] },
   { name := "YAML",
     aliases := ["yml"],
     extensions := [".yml", ".yaml", ".syntax"],
     filenames := [".clang-format", ".gemrc", "glide.lock"] },
   { name := "TOML",
     extensions := [".toml"],
     filenames := ["Cargo.lock", "Gopkg.lock", "Pipfile"] },
   { name := "XML",
     aliases := ["rss", "xsd", "wsdl"],
     extensions := [".xml", ".csproj", ".plist", ".svg", ".xsd", ".xsl"],
     filenames := [".classpath", ".project", "Settings.StyleCop"] },
   { name := "HTML",
     aliases := ["xhtml"],
     extensions := [".html", ".htm", ".xht", ".xhtml"] },
   { name := "CSS",
     extensions := [".css"] },
   { name := "SQL",
     extensions := [".sql", ".cql", ".ddl", ".prc", ".tab", ".udf", ".viw"] },
   { name := "Emacs Lisp",
     aliases := ["elisp", "emacs"],
     extensions := [".el", ".emacs", ".emacs.desktop"],
     filenames := [".emacs", ".gnus", ".spacemacs", ".viper"] },
   { name := "Vim Script",
     aliases := ["vim", "viml", "nvim"],
     extensions := [".vim", ".vba", ".vmb"],
     filenames := [".vimrc", ".gvimrc", "_vimrc", "vimrc"] },
   { name := "Smalltalk",
     aliases := ["squeak"],
     extensions := [".st", ".cs"] },
   { name := "Text",
     aliases := ["fundamental", "plain text"],
     extensions := [".txt", ".fr", ".nb", ".ncl", ".no"],
     filenames := ["COPYING", "INSTALL", "LICENSE", "README.me", "click.me", "delete.me",
       "keep.me", "read.me"] },
   { name := "AWK",
     extensions := [".awk", ".auk", ".gawk", ".mawk", ".nawk"],
     interpreters := ["awk", "gawk", "mawk", "nawk"] },
   { name := "Tcl",
     extensions := [".tcl", ".adp", ".tm"],
     interpreters := ["tclsh", "wish"] }]

/-- The catalogue of the standard languages. -/
def Catalogue.standard : Except DetectError Catalogue :=
  Catalogue.ofList Language.standard

end LangBench
