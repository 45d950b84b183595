/-!
The built-in shader. It passes location 0 through as the position, or generates a triangle over the
whole target where no vertices are read.
-/

set_option autoImplicit false

namespace RenderBridge

/-- The lines of the built-in shader. -/
def builtinShaderLines : List String := [
  "struct VertexOutput \x7b",
  "    @builtin(position) clip_position: vec4<f32>,",
  "\x7d;",
  "",
  "@vertex",
  "fn vs_main(@location(0) position: vec4<f32>) -> VertexOutput \x7b",
  "    var out: VertexOutput;",
  "    out.clip_position = position;",
  "    return out;",
  "\x7d",
  "",
  "@vertex",
  "fn vs_generated(@builtin(vertex_index) index: u32) -> VertexOutput \x7b",
  "    var out: VertexOutput;",
  "    let x = f32(i32(index & 1u) * 4 - 1);",
  "    let y = f32(i32(index & 2u) * 2 - 1);",
  "    out.clip_position = vec4<f32>(x, y, 0.0, 1.0);",
  "    return out;",
  "\x7d",
  "",
  "@fragment",
  "fn fs_main() -> @location(0) vec4<f32> \x7b",
  "    return vec4<f32>(1.0, 1.0, 1.0, 1.0);",
  "\x7d"]

/-- The source of the built-in shader. -/
def builtinShader : String := String.join (builtinShaderLines.map fun line => line ++ "\n")

end RenderBridge
