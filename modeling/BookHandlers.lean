import BookHandlers.Strconv
import BookHandlers.Decimal
import BookHandlers.Model
import BookHandlers.Handlers
import BookHandlers.Server
import BookHandlers.Slice
import BookHandlers.Goroutines
import BookHandlers.Solo
import BookHandlers.Sequential
import BookHandlers.Races
