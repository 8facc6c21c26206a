import WasmLua.Main
import WasmLua.Proofs.Binary.Immediates
import WasmLua.Proofs.Binary.NameSection
import WasmLua.Proofs.Body.Choices
import WasmLua.Proofs.Body.Observation
import WasmLua.Proofs.Command.Layers
import WasmLua.Proofs.Errors.Classes
import WasmLua.Proofs.Fields.Units
import WasmLua.Proofs.Host.Crossing
import WasmLua.Proofs.Isolation.Instances
import WasmLua.Proofs.Names.Bindings
import WasmLua.Proofs.Safety.Modules
import WasmLua.Proofs.Signature.Keys
import WasmLua.Proofs.Spilling.Templates
import WasmLua.Proofs.Stack.Effects
import WasmLua.Proofs.Table.Refinement
import WasmLua.Proofs.Text.Literals
