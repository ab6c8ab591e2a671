/-! What the program says of itself. -/
namespace Flowmeter.Program

def name : String := "nettop"

def version : String := "0.6.0"

def purpose : String := "Shows which processes are generating network traffic"

end Flowmeter.Program
