import HeliosBuild.Python.Argparse

/-!
# The command line of `install_deps.py`

`configure.py` runs `install_deps.py` as a child process.  The child first
parses its command line; the choice lists of `--compiler`, `--build-type` and
`--generator` decide which hand-offs it accepts.  What the installer does
after parsing is the host's.
-/

namespace HeliosBuild
namespace InstallDeps

open Argparse

/-- The parser built in `install_deps.py`'s `main`. -/
def parser : Parser where
  arguments :=
    [⟨["-h", "--help"], "help", .help⟩,
     ⟨["--use-conan"], "use_conan", .storeConst true⟩,
     ⟨["--use-system"], "use_system", .storeConst true⟩,
     ⟨["--no-interactive"], "no_interactive", .storeConst true⟩,
     ⟨["--install-conan"], "install_conan", .storeConst true⟩,
     ⟨["--profile"], "profile", .store none⟩,
     ⟨["--compiler"], "compiler", .store (some ["msvc", "clang", "clang-cl", "gcc"])⟩,
     ⟨["--build-type"], "build_type", .store (some ["Debug", "Release", "RelWithDebInfo"])⟩,
     ⟨["--generator"], "generator",
        .store (some ["Ninja", "Unix Makefiles", "Visual Studio 17 2022", "Xcode"])⟩]
  defaults :=
    [("use_conan", .bool false), ("use_system", .bool false), ("no_interactive", .bool false),
     ("install_conan", .bool false), ("profile", .str "default"), ("compiler", .none),
     ("build_type", .str "Release"), ("generator", .none)]

/-- The namespace `install_deps.py` parses. -/
structure Args where
  useConan : Bool
  useSystem : Bool
  noInteractive : Bool
  installConan : Bool
  profile : String
  compiler : Option String
  buildType : String
  generator : Option String
  deriving DecidableEq, Repr

/-- The attributes of a parsed namespace. -/
def Args.ofNamespace (ns : Namespace) : Args where
  useConan := ((ns.get "use_conan").optBool).getD false
  useSystem := ((ns.get "use_system").optBool).getD false
  noInteractive := ((ns.get "no_interactive").optBool).getD false
  installConan := ((ns.get "install_conan").optBool).getD false
  profile := ((ns.get "profile").optStr).getD "default"
  compiler := (ns.get "compiler").optStr
  buildType := ((ns.get "build_type").optStr).getD "Release"
  generator := (ns.get "generator").optStr

/-- `parser.parse_args()` on the child's argument vector. -/
def parseArguments (argv : List String) : Except ParseError Args :=
  (parse parser argv).map Args.ofNamespace

end InstallDeps
end HeliosBuild
