import Polyglot.Language.Definition

/-!
# The built-in languages

Seventeen languages, each with the patterns that give its snippets away. Without the flag `m` the
anchors `^` and `$` are the ends of the snippet, not of a line. Braces in a pattern are written
by their code points.
-/

namespace Polyglot.Catalogue

/-- Markers of JavaScript, which TypeScript snippets must show as well. -/
def javascriptMarkers : List String := [
  r"function\s+\w+\s*\([^)]*\)",
  r"const\s+\w+\s*=",
  r"let\s+\w+\s*=",
  r"var\s+\w+\s*=",
  r"console\.(log|error|warn)"]

def python : LanguageDefinition where
  name := "Python"
  aliases := ["py", "python3"]
  fileExtension := "py"
  markers := [
    r"def\s+\w+\s*\([^)]*\)\s*:",
    r"import\s+[\w\s,]+",
    r"from\s+[\w.]+\s+import",
    r"print\s*\([^)]*\)",
    r":\s*$"]
  signature :=
    r"def\s+\w+\s*\([^)]*\)\s*:|import\s+[\w\s,]+"
  boosters := [
    (r#"if\s+__name__\s*==\s*['"]__main__['"]"#, 8),
    (r"(?m)^\s*elif\s+.+:", 6),
    (r"(?m)^\s*(?:for|while|if|with)\s.+:\s*$", 5),
    (r"(?m)^\s*from\s+[\w.]+\s+import\s", 6),
    (r"\bself\.\w+", 5)]

def javascript : LanguageDefinition where
  name := "JavaScript"
  aliases := ["js", "node", "nodejs"]
  fileExtension := "js"
  markers := javascriptMarkers
  signature :=
    r"function\s+\w+\s*\([^)]*\)|const\s+\w+\s*="
  boosters := [
    (r"console\.(?:log|error|warn)\(", 6),
    (r#"require\(\s*['"]"#, 6),
    (r"\bdocument\.\w+", 7),
    (r"=>\s*\x7b", 5)]

def java : LanguageDefinition where
  name := "Java"
  aliases := []
  fileExtension := "java"
  markers := [
    r"public\s+class\s+\w+",
    r"public\s+static\s+void\s+main",
    r"System\.(out|err)\.",
    r"private|protected|public",
    r"import\s+java\."]
  signature :=
    r"public\s+class\s+\w+|public\s+static\s+void\s+main"
  boosters := [
    (r"System\.(?:out|err)\.print", 6),
    (r"public\s+static\s+void\s+main\s*\(\s*String", 8),
    (r"import\s+java\.", 8),
    (r"@Override\b", 5)]

def cpp : LanguageDefinition where
  name := "C++"
  aliases := ["cpp", "cxx", "c++17"]
  fileExtension := "cpp"
  markers := [
    r"#include\s*<[^>]+>",
    r"std::\w+",
    r"cout\s*<<",
    r"cin\s*>>",
    r"int\s+main\s*\("]
  signature :=
    r"#include\s*<[^>]+>|std::\w+"
  boosters := [
    (r"std::(?:cout|cin|vector|string|map)\b", 6),
    (r"#include\s*<(?:iostream|vector|string|map|algorithm)>", 7),
    (r"using\s+namespace\s+std\s*;", 8)]

def julia : LanguageDefinition where
  name := "Julia"
  aliases := ["jl"]
  fileExtension := "jl"
  markers := [
    r"function\s+\w+\s*\([^)]*\)\s*end",
    r"println\(",
    r"using\s+\w+",
    r"module\s+\w+",
    r"struct\s+\w+"]
  signature :=
    r"function\s+\w+\s*\([^)]*\)\s*end|\bmodule\s+\w+|\bstruct\s+\w+"
  boosters := [
    (r"(?m)^\s*(?:mutable\s+)?struct\s+\w+\s*$", 6),
    (r"::\s*(?:Int|Float|String|Bool|Vector|Array)\w*", 5),
    (r"(?m)^\s*using\s+\w+(?:\s*,\s*\w+)*\s*$", 5)]

def go : LanguageDefinition where
  name := "Go"
  aliases := ["golang"]
  fileExtension := "go"
  markers := [
    r"package\s+\w+",
    r"func\s+\w+\s*\(",
    r"import\s*\(",
    r"fmt\.",
    r"type\s+\w+\s+struct"]
  signature :=
    r"package\s+\w+|func\s+\w+\s*\("
  boosters := [
    (r"package\s+main\b", 7),
    (r"fmt\.(?:Print|Sprint|Fprint)", 6),
    (r"\w\s*:=\s*", 5),
    (r"func\s*\(\w+\s+\*?\w+\)\s*\w+\s*\(", 6)]

def ruby : LanguageDefinition where
  name := "Ruby"
  aliases := ["rb"]
  fileExtension := "rb"
  markers := [
    r"def\s+\w+\s*(?:\([^)]*\))?\s*$",
    r"class\s+\w+(?:\s*<\s*\w+)?\s*$",
    r#"require\s+["']\w+["']"#,
    r"\b(?:puts|print)\s",
    r"\bdo\s*\|[^|]*\|",
    r"\bend\b",
    r":[a-zA-Z_]\w*\s*=>",
    r"[a-zA-Z_]\w*:\s*[^,\s]"]
  signature :=
    r"\bdef\s+\w+\s*(?:\([^)]*\))?\s*$|\bend\b"
  boosters := [
    (r"(?m)^\s*puts\s", 6),
    (r"\bdo\s*\|[^|]*\|", 6),
    (r"\battr_(?:reader|writer|accessor)\b", 8),
    (r#"require\s+['"]\w+['"]"#, 5)]

def swift : LanguageDefinition where
  name := "Swift"
  aliases := []
  fileExtension := "swift"
  markers := [
    r"import\s+(?:Foundation|UIKit|SwiftUI)",
    r"(?:var|let)\s+\w+\s*:\s*\w+",
    r"func\s+\w+\s*\([^)]*\)\s*(?:->\s*\w+)?\s*\x7b",
    r"class\s+\w+(?:\s*:\s*\w+)?\s*\x7b",
    r"struct\s+\w+\s*\x7b",
    r"@IBOutlet|@IBAction",
    r"guard\s+let",
    r"if\s+let|if\s+var",
    r"override\s+func"]
  signature :=
    r"import\s+(?:Foundation|UIKit|SwiftUI)|@IBOutlet|@IBAction"
  boosters := [
    (r"import\s+(?:Foundation|UIKit|SwiftUI)", 8),
    (r"guard\s+let\b", 7),
    (r"\bfunc\s+\w+\s*\([^)]*\)\s*->", 6),
    (r"@(?:IBOutlet|IBAction|State|Published)\b", 8)]

def rust : LanguageDefinition where
  name := "Rust"
  aliases := ["rs"]
  fileExtension := "rs"
  markers := [
    r"fn\s+\w+\s*\([^)]*\)\s*(?:->\s*[^\x7b]+)?\s*\x7b",
    r"let\s+mut\s+\w+",
    r"struct\s+\w+\s*\x7b[^\x7d]*\x7d",
    r"impl\s+\w+(?:\s+for\s+\w+)?",
    r"use\s+[\w:]+",
    r"pub\s+(?:fn|struct|enum|mod)",
    r"Vec<[^>]+>",
    r"match\s+\w+\s*\x7b",
    r"#\[\w+(?:\([^)]*\))?\]"]
  signature :=
    r"fn\s+\w+\s*\([^)]*\)\s*(?:->\s*[^\x7b]+)?\s*\x7b|impl\s+\w+(?:\s+for\s+\w+)?"
  boosters := [
    (r"println!\(", 6),
    (r"let\s+mut\s", 6),
    (r"impl\s+\w+\s+for\s", 7),
    (r"&(?:mut\s+)?self\b", 6),
    (r"\bfn\s+main\s*\(\s*\)", 5)]

def csharp : LanguageDefinition where
  name := "C#"
  aliases := ["csharp", "cs"]
  fileExtension := "cs"
  markers := [
    r"using\s+[\w.]+;",
    r"namespace\s+[\w.]+",
    r"(public|private|protected|internal)\s+(class|struct|interface|enum)",
    r"(public|private|protected|internal)\s+[\w<>\[\]]+\s+\w+\s*\(",
    r"Console\.(Write|WriteLine)",
    r"\bvar\s+\w+\s*=",
    r"new\s+\w+\s*\(",
    r"\bawait\s+",
    r"\btask<",
    r"\bdynamic\b",
    r"\bstring\b",
    r#"\$"[^"]*\x7b"#]
  ignoreCase := true
  signature :=
    r"using\s+[\w.]+;|namespace\s+[\w.]+"
  boosters := [
    (r"Console\.Write(?:Line)?\s*\(", 7),
    (r"using\s+System\b", 8),
    (r"\x7b\s*get;\s*(?:set;)?\s*\x7d", 8)]

def typescript : LanguageDefinition where
  name := "TypeScript"
  aliases := ["ts"]
  fileExtension := "ts"
  markers := [
    r":\s*[A-Za-z]+(?:<[^>]+>)?\s*(?:=|;|\)|\x7d)",
    r"interface\s+\w+\s*\x7b",
    r"class\s+\w+(?:\s+implements|\s+extends)?",
    r"(private|public|protected)\s+\w+",
    r"\w+\s*<[^>]+>",
    r"import\s+\x7b[^\x7d]+\x7d\s+from",
    r"export\s+(interface|class|type|const|let)",
    r"type\s+\w+\s*=",
    r"enum\s+\w+",
    r"@\w+(?:\([^)]*\))?"]
  requires := javascriptMarkers
  signature :=
    r":\s*[A-Za-z]+(?:<[^>]+>)?\s*(?:=|;|\)|\x7d)"
  boosters := [
    (r"interface\s+\w+\s*\x7b", 6),
    (r":\s*(?:string|number|boolean|void|any)\b", 6),
    (r"\btype\s+\w+\s*=", 5),
    (r"export\s+(?:interface|type)\s", 7)]

def r : LanguageDefinition where
  name := "R"
  aliases := ["rlang"]
  fileExtension := "r"
  markers := [
    r"<-\s*(?:function|\w+)",
    r"library\([\w.]+\)",
    r"(?:data|read)\.(?:frame|csv|table)",
    r"\b(?:if|for|while)\s*\(",
    r"\$\w+",
    r"\bNA\b|\bNULL\b|\bTRUE\b|\bFALSE\b",
    r"c\(.*?\)",
    r"(?:plot|ggplot)\(",
    r"\s*#.*$",
    r"%>%",
    r"\bfactor\(",
    r"\bstr\(",
    r"\bas\.\w+\(",
    r"\w+\s*<-\s*\w+\[.+?\]"]
  signature :=
    r"<-\s*(?:function|\w+)|library\([\w.]+\)"
  boosters := [
    (r"<-\s*function\s*\(", 7),
    (r"library\([\w.]+\)", 7),
    (r"%>%", 8),
    (r"data\.frame\(", 6)]

def perl : LanguageDefinition where
  name := "Perl"
  aliases := ["pl"]
  fileExtension := "pl"
  markers := [
    r"\$\w+",
    r"@\w+",
    r"%\w+",
    r"use\s+[\w:]+\s*;",
    r"\bsub\s+\w+\s*\x7b",
    r"\bmy\s+(?:\$|@|%)\w+",
    r"=~\s*(?:m|s|tr)",
    r#"print\s+(?:\$|@|%|")"#,
    r"(?:if|unless|while|for|foreach)\s*\(",
    r"\x7b.*?\x7d.*?\x7b.*?\x7d",
    r"->\w+",
    r"\b(?:shift|pop|push|splice)",
    r";\s*$",
    r"#.*$",
    r"\bdie\s+",
    r"\bqw\s*\(",
    r"\$_",
    r"\bdefined\s+(?:\$|@|%)"]
  signature :=
    r"\buse\s+[\w:]+\s*;|\bmy\s+(?:\$|@|%)"
  boosters := [
    (r"\bmy\s+\$\w+", 5),
    (r"\buse\s+strict\s*;", 8),
    (r"=~\s*(?:m|s|tr)/", 6),
    (r"\bforeach\s+my\s+\$", 7)]

def lua : LanguageDefinition where
  name := "Lua"
  aliases := []
  fileExtension := "lua"
  markers := [
    r"\blocal\s+\w+",
    r"\bfunction\s+\w+(?:\w*\.\w+)*\s*\(",
    r"(?:end|then|do|else)\b",
    r#"\brequire\s*\(["\w.']+\)"#,
    r"\breturn\s+.+?$",
    r"\bnil\b",
    r"\bfor\s+\w+\s*=\s*\d+\s*,\s*\d+",
    r"\bfor\s+\w+(?:\s*,\s*\w+)*\s+in\b",
    r"\bif\s+.+?\s+then\b",
    r"\belseif\s+.+?\s+then\b",
    r"\btable\.(\w+)\b",
    r"\bstring\.(\w+)\b",
    r"\bmath\.(\w+)\b",
    r"\bpairs\(\w+\)",
    r"\bipairs\(\w+\)",
    r"\btostring\(",
    r"\btonumber\(",
    r"\bprint\(",
    r"--.*$",
    r"\[\[.*?\]\]",
    r#"\x7b\s*[\w"']+\s*="#,
    r"\w+\[\w+\]",
    r"\w+\.\.\w+"]
  signature :=
    r"\blocal\s+\w+|\bfunction\s+\w+(?:\w*\.\w+)*\s*\("
  boosters := [
    (r"\blocal\s+\w+", 5),
    (r"\bi?pairs\(\w+\)", 5),
    (r"\w\s*~=\s*\w", 6)]

def php : LanguageDefinition where
  name := "PHP"
  aliases := []
  fileExtension := "php"
  markers := [
    r"<\?php",
    r"\$\w+",
    r"function\s+\w+\s*\(",
    r#"echo\s+[\$\w'"]+"#,
    r"class\s+\w+(?:\s+extends|\s+implements)?",
    r"(?:public|private|protected)\s+function",
    r"(?:public|private|protected)\s+\$\w+",
    r"namespace\s+[\w\\]+",
    r"use\s+[\w\\]+",
    r"=>",
    r"array\s*\(",
    r#"\[\s*['"]*\w+['"]*\s*\]"#,
    r"require(?:_once)?\s*\(",
    r"include(?:_once)?\s*\(",
    r"new\s+\w+",
    r"->",
    r"::",
    r"<\?=.*?(?:\?>|$)",
    r"if\s*\(.+?\)\s*\x7b",
    r"foreach\s*\(\s*\$\w+",
    r";$"]
  signature :=
    r"<\?php"
  boosters := [
    (r"<\?php", 5),
    (r"\$this->", 7),
    (r"\becho\s", 5)]

def kotlin : LanguageDefinition where
  name := "Kotlin"
  aliases := ["kt"]
  fileExtension := "kt"
  markers := [
    r"fun\s+\w+\s*\(",
    r"val\s+\w+(?:\s*:\s*\w+)?",
    r"var\s+\w+(?:\s*:\s*\w+)?",
    r"class\s+\w+(?:\s*\((?:[^)]*)\))?",
    r"package\s+[\w.]+",
    r"import\s+[\w.]+",
    r"object\s+\w+",
    r"interface\s+\w+",
    r"data\s+class",
    r"(?:override|open|abstract|final)\s+fun",
    r"(?:companion|sealed)\s+object",
    r"when\s*\(",
    r"(?:if|else|for|while)\s*\(",
    r"->",
    r"[\w.()]+\.\w+\x7b",
    r"(?:List|Set|Map)<",
    r"(?:private|public|internal|protected)",
    r"lateinit\s+var",
    r"(?:suspend|inline)\s+fun",
    r"@\w+(?:\([^)]*\))?"]
  signature :=
    r"\bfun\s+\w+\s*\(|\bval\s+\w+(?:\s*:\s*\w+)?"
  boosters := [
    (r"package\s+com\.", 8),
    (r"import\s+android\.", 8),
    (r"import\s+kotlinx\.", 8),
    (r"fun\s+main\(\)", 7),
    (r"class\s+\w+\s*:\s*\w+", 6),
    (r"data\s+class", 8),
    (r"companion\s+object", 8),
    (r"val\s+\w+\s*:\s*\w+", 5),
    (r"var\s+\w+\s*:\s*\w+", 5),
    (r"lateinit\s+var", 8),
    (r"override\s+fun", 6),
    (r"when\s*\(", 5),
    (r"suspend\s+fun", 8),
    (r"coroutineScope", 8),
    (r"viewModel:", 6),
    (r"by\s+viewModels", 8),
    (r"by\s+lazy", 8)]

def sql : LanguageDefinition where
  name := "SQL"
  aliases := ["mysql", "postgres", "postgresql", "sqlite"]
  fileExtension := "sql"
  markers := [
    r"SELECT\s+[\w\*,\s]+\s+FROM",
    r"INSERT\s+INTO\s+\w+",
    r"UPDATE\s+\w+\s+SET",
    r"DELETE\s+FROM\s+\w+",
    r"CREATE\s+TABLE\s+\w+",
    r"ALTER\s+TABLE\s+\w+",
    r"DROP\s+TABLE\s+\w+",
    r"TRUNCATE\s+TABLE\s+\w+",
    r"JOIN\s+\w+\s+ON",
    r"WHERE\s+\w+\s*(?:=|<|>|<=|>=|<>|!=|LIKE|IN)",
    r"GROUP\s+BY\s+\w+",
    r"ORDER\s+BY\s+\w+\s+(?:ASC|DESC)?",
    r"HAVING\s+\w+",
    r"CONSTRAINT\s+\w+",
    r"PRIMARY\s+KEY",
    r"FOREIGN\s+KEY",
    r"\b(?:VARCHAR|INT|INTEGER|FLOAT|DATE|DATETIME|BOOLEAN|TEXT|BLOB)\b",
    r"\b(?:COUNT|SUM|AVG|MIN|MAX)\s*\(",
    r"CASE\s+WHEN\s+.+?\s+THEN",
    r"BEGIN\s+TRANSACTION",
    r"\bCOMMIT\b",
    r"\bROLLBACK\b"]
  ignoreCase := true
  signature :=
    r"(?i)SELECT\s+[\w\*,\s]+\s+FROM"
  boosters := [
    (r"(?i)SELECT\s+[\w\*,\s]+\s+FROM", 5),
    (r"(?i)\bINSERT\s+INTO\b", 5),
    (r"(?i)\bCREATE\s+TABLE\b", 6)]

/-- Every built-in language, in the order of listings. -/
def all : List LanguageDefinition :=
  [python, javascript, java, cpp, julia, go, ruby, swift, rust, csharp, typescript, r, perl,
    lua, php, kotlin, sql]

end Polyglot.Catalogue
