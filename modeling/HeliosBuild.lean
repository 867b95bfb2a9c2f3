import HeliosBuild.Python.Text
import HeliosBuild.Python.Host
import HeliosBuild.Python.Script
import HeliosBuild.Python.Logic
import HeliosBuild.Python.Interrupt
import HeliosBuild.Python.Argparse
import HeliosBuild.CMakeCache
import HeliosBuild.InstallDeps
import HeliosBuild.Configure.Config
import HeliosBuild.Configure.Detect
import HeliosBuild.Configure.Prompts
import HeliosBuild.Configure.Compiler
import HeliosBuild.Configure.BuildSystem
import HeliosBuild.Configure.MsvcEnv
import HeliosBuild.Configure.Conan
import HeliosBuild.Configure.CMake
import HeliosBuild.Configure.Main
import HeliosBuild.Configure.Precedence
import HeliosBuild.Configure.Interrupt
import HeliosBuild.Build.Workspace
import HeliosBuild.Build.Main
import HeliosBuild.Build.Target
import HeliosBuild.Build.Handoff
import HeliosBuild.InstallDeps.Installer
import HeliosBuild.InstallDeps.Steps
import HeliosBuild.InstallDeps.Run
import HeliosBuild.InstallDeps.Main
import HeliosBuild.InstallDeps.Handoff
import HeliosBuild.Tools.Paths
import HeliosBuild.Tools.Shared
import HeliosBuild.Tools.Format
import HeliosBuild.Tools.Lint
import HeliosBuild.Tools.Handoff
import HeliosBuild.Tools.Docs
import HeliosBuild.Recipe
