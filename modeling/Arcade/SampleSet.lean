import Arcade.Board.Sound
import Arcade.FileSystem
import Arcade.Log

/-!
# Sample sets

The recordings the effects are played from, one file each; two effects share a file.

* `SampleSet.load` reads the files of a directory. A file that cannot be read leaves its effects
  silent;
* a set without any recording is no set: then there is no sound at all.
-/

namespace Arcade.SampleSet

/-- The directory that is looked in unless another one is chosen. -/
def defaultDirectory : String := "assets/sounds"

/-- The file of an effect. -/
def fileName : SoundEffect → String
  | .ufo => "ufo_lowpitch.wav"
  | .shot => "shoot.wav"
  | .playerDies => "explosion.wav"
  | .invaderDies => "invaderkilled.wav"
  | .fleet1 => "fastinvader1.wav"
  | .fleet2 => "fastinvader2.wav"
  | .fleet3 => "fastinvader3.wav"
  | .fleet4 => "fastinvader4.wav"
  | .ufoHit => "explosion.wav"

/-- What there is to report of a set. -/
inductive Notice
  | unreadable (effect : SoundEffect) (path : String) (cause : FileError)
  /-- No file could be read. -/
  | noSamples (directory : String)
  deriving DecidableEq, Repr

/-- A report as a log line. -/
def Notice.log : Notice → Log.Line
  | unreadable effect path cause =>
    ⟨.warn, "Failed to load sound " ++ effect.name ++ " from " ++ path ++ ": " ++ cause.message⟩
  | noSamples directory =>
    ⟨.warn, "No sound samples found in " ++ directory ++ ", disabling audio"⟩

/-- An effect and its recording. -/
abbrev Sample := SoundEffect × Array UInt8

/-- The recordings of some effects, and a report of each that cannot be read. -/
def loadEffects (files : FileSystem) (directory : String) :
    List SoundEffect → List Sample × List Notice
  | [] => ([], [])
  | effect :: rest =>
    let path := Path.join directory (fileName effect)
    let (samples, notices) := loadEffects files directory rest
    match files.read path with
    | .ok bytes => ((effect, bytes) :: samples, notices)
    | .error cause => (samples, .unreadable effect path cause :: notices)

/-- The set of a directory, if there is any recording, and what there is to report. -/
def load (files : FileSystem) (directory : String) : Option (List Sample) × List Notice :=
  match loadEffects files directory SoundEffect.all with
  | ([], notices) => (none, notices ++ [.noSamples directory])
  | (samples, notices) => (some samples, notices)

end Arcade.SampleSet
