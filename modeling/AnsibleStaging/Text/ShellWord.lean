/-! One word of a shell's command line. Between single quotes every character stands for itself; a quote closes
    them, stands escaped, and opens them again. -/

namespace AnsibleStaging
namespace ShellWord

def quoteChar (c : Char) : List Char := if c = '\'' then ['\'', '\\', '\'', '\''] else [c]

def quoteChars (cs : List Char) : List Char := '\'' :: (cs.flatMap quoteChar ++ ['\''])

def quote (s : String) : String := String.ofList (quoteChars s.toList)

end ShellWord
end AnsibleStaging
