import RenderBridge.Config
import RenderBridge.Context.Basic
import RenderBridge.Gpu.Device
import RenderBridge.Gpu.Shader
/-!
Opening a device on a graphics machine: instance, surface, adapter, device, configuration. The first
step that fails is the answer, and what was called before it stays called.

* `GpuInit`: what is asked of the machine beside the configuration of the context.
* `GpuDevice.openOn`: the steps.
* `GpuDevice.factory`: the same as a way for devices to come into being.
-/

set_option autoImplicit false

namespace RenderBridge

/-- What is asked of the machine. -/
structure GpuInit where
  presentMode : PresentMode := .fifo
  /-- Used where the surface supports it; else the first mode that it supports. -/
  alphaMode : Option AlphaMode := none
  power : PowerPreference := .highPerformance
  latency : Nat := 2
  shader : String := builtinShader
deriving DecidableEq

namespace GpuDevice

/-- The bits of the instance: validation comes with debugging. -/
def instanceFlags (flags : DebugFlags) : Nat := if flags.validation then 1 + 2 else 0

/-- The surface's configuration for a context. -/
def surfaceConfig (config : Config) (init : GpuInit) (alphaModes : List AlphaMode) :
    SurfaceConfig where
  format := config.colorFormat
  width := config.width.toNat
  height := config.height.toNat
  presentMode := init.presentMode
  alphaMode := AlphaMode.choose alphaModes init.alphaMode
  latency := init.latency

/-- The device on a machine whose surface and adapter are there. -/
def assemble (config : Config) (init : GpuInit) (r : Recorder) : GpuDevice :=
  let labels := config.debugFlags.labels
  let label (text : String) : Option String := if labels then some text else none
  let device : GpuDevice :=
    { recorder := r
      surface := { config := surfaceConfig config init r.script.alphaModes }
      colorFormat := config.colorFormat
      sampleCount := config.effectiveSamples
      labels := labels }
  device.configureSurface.emit
    [.createShader (label "kiln shader") init.shader,
      .createPipelineLayout (label "kiln pipeline layout") 0 0]

/-- Checks that the surface takes the format and the adapter the samples. -/
def checkFormat (config : Config) (r : Recorder) : Except DeviceFault Unit :=
  if config.colorFormat ∉ r.script.formats then
    .error (.resource (.formatUnsupported config.colorFormat r.script.formats))
  else if !r.supportsSamples config.effectiveSamples.toNat then
    .error (.resource (.samplesUnsupported config.effectiveSamples config.colorFormat))
  else .ok ()

/-- Opens a device. The failures come with the machine as they leave it. -/
def openOn (config : Config) (init : GpuInit) (r : Recorder) :
    Except (DeviceFault × Recorder) GpuDevice :=
  if config.width ≤ 0 ∨ config.height ≤ 0 then .error (.resource .emptyDrawable, r)
  else
    let r := r.emit [.createInstance (instanceFlags config.debugFlags) true]
    if r.script.window ≠ .available then .error (.resource (.noSurface r.script.window), r)
    else
      let r := r.emit [.createSurface, .requestAdapter init.power true false]
      if !r.script.hasAdapter then .error (.resource .noAdapter, r)
      else
        let label := if config.debugFlags.labels then some "kiln device" else none
        let r := r.emit [.requestDevice label true true "Performance" "Off"]
        if !r.script.hasDevice then .error (.resource .noDevice, r)
        else
          match checkFormat config r with
          | .error fault => .error (fault, r)
          | .ok () => .ok (assemble config init r)

/-- Devices on a machine with a script. -/
def factory (script : GpuScript) (init : GpuInit) : DeviceFactory Recorder GpuDevice where
  build config r := openOn config init (r.install script)
  retire := retire

end GpuDevice

end RenderBridge
