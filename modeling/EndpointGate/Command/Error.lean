import EndpointGate.Disk.Backup
import EndpointGate.Gateway.Error
import EndpointGate.Server

/-! Why a command fails. Each failure is of a category, which has a code and an exit status of its
own. -/

namespace EndpointGate

inductive OutputFault
  | io (reason : String)
  | json (reason : String)
  deriving DecidableEq, Repr

def OutputFault.message : OutputFault → String
  | .io reason => reason
  | .json reason => "JSON output failed: " ++ reason

inductive OpenFault
  | directory (path : String) (fault : DiskFault)
  | store (cause : StoreError)
  deriving DecidableEq, Repr

def OpenFault.message : OpenFault → String
  | .directory path fault =>
    "Failed to create directory " ++ Text.quotePath path ++ ": " ++ fault.message
  | .store cause => cause.message

inductive CommandError
  | config (fault : ConfigFault)
  | output (fault : OutputFault)
  | store (fault : OpenFault)
  | listen (fault : Http.ListenFault)
  | registration (cause : GatewayError)
  | backup (cause : BackupError)
  deriving DecidableEq, Repr

namespace CommandError

inductive Category
  | config
  | io
  | store
  | boot
  | command
  deriving DecidableEq, Repr

namespace Category

def code : Category → String
  | .config => "SQLGATE_CLI_CONFIG_ERROR"
  | .io => "SQLGATE_CLI_IO_ERROR"
  | .store => "SQLGATE_CLI_STORE_ERROR"
  | .boot => "SQLGATE_CLI_BOOT_FAILED"
  | .command => "SQLGATE_CLI_COMMAND_FAILED"

def exitStatus : Category → Nat
  | .command => 1
  | .config => 2
  | .store => 3
  | .boot => 4
  | .io => 5

def display (c : Category) (message : String) : String := c.code ++ ": " ++ message

end Category

def category : CommandError → Category
  | .config _ => .config
  | .output _ => .io
  | .store _ => .store
  | .listen _ => .boot
  | .registration _ | .backup _ => .command

def message : CommandError → String
  | .config fault => fault.message
  | .output fault => fault.message
  | .store fault => fault.message
  | .listen fault => "HTTP server failed: " ++ fault.message
  | .registration cause => cause.message
  | .backup cause => cause.code ++ ": " ++ cause.message

def display (e : CommandError) : String := e.category.display e.message

def exitStatus (e : CommandError) : Nat := e.category.exitStatus

end CommandError

end EndpointGate
