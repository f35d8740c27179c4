/-! # What the runner says about itself -/

namespace Chip8.Runner

def versionText : String := "chip-8-runner 0.1.0\n"

def helpText : String :=
  "Headless CHIP-8 runner: executes a ROM for a fixed number of cycles and prints the " ++
  "resulting framebuffer

Usage: chip-8-runner [OPTIONS] <ROM>

Arguments:
  <ROM>  Filepath to Chip-8 ROM file that will be executed

Options:
  -c, --cycles <CYCLES>          Number of instruction cycles to run [default: 1000]
      --keep-going               Keep issuing cycles after one fails
      --background <BACKGROUND>  Background Color as HEX 0xAABBFF [default: 0x000000]
      --foreground <FOREGROUND>  Foreground Color as HEX 0xAABBFF [default: 0xFFFFFF]
      --frame-out <FRAME_OUT>    Write the final frame as raw RGBX8888 bytes to this file
      --dump-state               Print registers, stack and a memory dump after the run
  -d, --debug                    Log every executed instruction
      --trace                    Log machine state on failures as well
  -h, --help                     Print help
  -V, --version                  Print version
"

end Chip8.Runner
