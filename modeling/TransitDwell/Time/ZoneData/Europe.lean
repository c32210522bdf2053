/-!
# Zones of Europe

Entries of the time zone database for Europe.
-/

namespace TransitDwell

namespace ZoneData

/-- The yearly changes of clocks that are laid down there. -/
def europeChanges : String := "
  BritishIsles = 1916 May 21 2s 1; 1916 Oct 1 2s 0; 1917 Apr 8 2s 1; 1917 Sep 17 2s 0;
    1918 Mar 24 2s 1; 1918 Sep 30 2s 0; 1919 Mar 30 2s 1; 1919 Sep 29 2s 0; 1920 Mar 28 2s 1;
    1920 Oct 25 2s 0; 1921 Apr 3 2s 1; 1921 Oct 3 2s 0; 1922 Mar 26 2s 1; 1922 Oct 8 2s 0;
    1923 Apr Sun>=16 2s 1; 1923-1924 Sep Sun>=16 2s 0; 1924 Apr Sun>=9 2s 1;
    1925-1926 Apr Sun>=16 2s 1; 1925-1938 Oct Sun>=2 2s 0; 1927 Apr Sun>=9 2s 1;
    1928-1929 Apr Sun>=16 2s 1; 1930 Apr Sun>=9 2s 1; 1931-1932 Apr Sun>=16 2s 1;
    1933 Apr Sun>=9 2s 1; 1934 Apr Sun>=16 2s 1; 1935 Apr Sun>=9 2s 1; 1936-1937 Apr Sun>=16 2s 1;
    1938 Apr Sun>=9 2s 1; 1939 Apr Sun>=16 2s 1; 1939 Nov Sun>=16 2s 0; 1940 Feb Sun>=23 2s 1;
    1941 May Sun>=2 1s 2; 1941-1943 Aug Sun>=9 1s 1; 1942-1944 Apr Sun>=2 1s 2;
    1944 Sep Sun>=16 1s 1; 1945 Apr Mon>=2 1s 2; 1945 Jul Sun>=9 1s 1; 1945-1946 Oct Sun>=2 2s 0;
    1946 Apr Sun>=9 2s 1; 1947 Mar 16 2s 1; 1947 Apr 13 1s 2; 1947 Aug 10 1s 1; 1947 Nov 2 2s 0;
    1948 Mar 14 2s 1; 1948 Oct 31 2s 0; 1949 Apr 3 2s 1; 1949 Oct 30 2s 0;
    1950-1952 Apr Sun>=14 2s 1; 1950-1952 Oct Sun>=21 2s 0; 1953 Apr Sun>=16 2s 1;
    1953-1960 Oct Sun>=2 2s 0; 1954 Apr Sun>=9 2s 1; 1955-1956 Apr Sun>=16 2s 1;
    1957 Apr Sun>=9 2s 1; 1958-1959 Apr Sun>=16 2s 1; 1960 Apr Sun>=9 2s 1;
    1961-1963 Mar lastSun 2s 1; 1961-1968 Oct Sun>=23 2s 0; 1964-1967 Mar Sun>=19 2s 1;
    1968 Feb 18 2s 1; 1972-1980 Mar Sun>=16 2s 1; 1972-1980 Oct Sun>=23 2s 0;
    1981-1995 Mar lastSun 1u 1; 1981-1989 Oct Sun>=23 1u 0; 1990-1995 Oct Sun>=22 1u 0.
  EU = 1977-1980 Apr Sun>=1 1u 1; 1977 Sep lastSun 1u 0; 1978 Oct 1 1u 0;
    1979-1995 Sep lastSun 1u 0; 1981- Mar lastSun 1u 1; 1996- Oct lastSun 1u 0.
  WesternEurope = 1977-1980 Apr Sun>=1 1s 1; 1977 Sep lastSun 1s 0; 1978 Oct 1 1s 0;
    1979-1995 Sep lastSun 1s 0; 1981- Mar lastSun 1s 1; 1996- Oct lastSun 1s 0.
  CentralEurope = 1916 Apr 30 23 1; 1916 Oct 1 1 0; 1917-1918 Apr Mon>=15 2s 1;
    1917-1918 Sep Mon>=15 2s 0; 1940 Apr 1 2s 1; 1942 Nov 2 2s 0; 1943 Mar 29 2s 1;
    1943 Oct 4 2s 0; 1944-1945 Apr Mon>=1 2s 1; 1944 Oct 2 2s 0; 1945 Sep 16 2s 0;
    1977-1980 Apr Sun>=1 2s 1; 1977 Sep lastSun 2s 0; 1978 Oct 1 2s 0; 1979-1995 Sep lastSun 2s 0;
    1981- Mar lastSun 2s 1; 1996- Oct lastSun 2s 0.
  EasternEurope = 1977-1980 Apr Sun>=1 0 1; 1977 Sep lastSun 0 0; 1978 Oct 1 0 0;
    1979-1995 Sep lastSun 0 0; 1981- Mar lastSun 0 1; 1996- Oct lastSun 0 0.
  Russia = 1917 Jul 1 23 1; 1917 Dec 28 0 0; 1918 May 31 22 2; 1918 Sep 16 1 1; 1919 May 31 23 2;
    1919 Jul 1 0u 1; 1919 Aug 16 0 0; 1921 Feb 14 23 1; 1921 Mar 20 23 2; 1921 Sep 1 0 1;
    1921 Oct 1 0 0; 1981-1984 Apr 1 0 1; 1981-1983 Oct 1 0 0; 1984-1995 Sep lastSun 2s 0;
    1985-2010 Mar lastSun 2s 1; 1996-2010 Oct lastSun 2s 0.
  Albania = 1940 Jun 16 0 1; 1942 Nov 2 3 0; 1943 Mar 29 2 1; 1943 Apr 10 3 0; 1974 May 4 0 1;
    1974 Oct 2 0 0; 1975 May 1 0 1; 1975 Oct 2 0 0; 1976 May 2 0 1; 1976 Oct 3 0 0;
    1977 May 8 0 1; 1977 Oct 2 0 0; 1978 May 6 0 1; 1978 Oct 1 0 0; 1979 May 5 0 1;
    1979 Sep 30 0 0; 1980 May 3 0 1; 1980 Oct 4 0 0; 1981 Apr 26 0 1; 1981 Sep 27 0 0;
    1982 May 2 0 1; 1982 Oct 3 0 0; 1983 Apr 18 0 1; 1983 Oct 1 0 0; 1984 Apr 1 0 1.
  Austria = 1920 Apr 5 2s 1; 1920 Sep 13 2s 0; 1946 Apr 14 2s 1; 1946 Oct 7 2s 0;
    1947-1948 Oct Sun>=1 2s 0; 1947 Apr 6 2s 1; 1948 Apr 18 2s 1; 1980 Apr 6 0 1; 1980 Sep 28 0 0.
  Belgium = 1918 Mar 9 0s 1; 1918-1919 Oct Sat>=1 23s 0; 1919 Mar 1 23s 1; 1920 Feb 14 23s 1;
    1920 Oct 23 23s 0; 1921 Mar 14 23s 1; 1921 Oct 25 23s 0; 1922 Mar 25 23s 1;
    1922-1927 Oct Sat>=1 23s 0; 1923 Apr 21 23s 1; 1924 Mar 29 23s 1; 1925 Apr 4 23s 1;
    1926 Apr 17 23s 1; 1927 Apr 9 23s 1; 1928 Apr 14 23s 1; 1928-1938 Oct Sun>=2 2s 0;
    1929 Apr 21 2s 1; 1930 Apr 13 2s 1; 1931 Apr 19 2s 1; 1932 Apr 3 2s 1; 1933 Mar 26 2s 1;
    1934 Apr 8 2s 1; 1935 Mar 31 2s 1; 1936 Apr 19 2s 1; 1937 Apr 4 2s 1; 1938 Mar 27 2s 1;
    1939 Apr 16 2s 1; 1939 Nov 19 2s 0; 1940 Feb 25 2s 1; 1944 Sep 17 2s 0; 1945 Apr 2 2s 1;
    1945 Sep 16 2s 0; 1946 May 19 2s 1; 1946 Oct 7 2s 0.
  Bulgaria = 1979 Mar 31 23 1; 1979 Oct 1 1 0; 1980-1982 Apr Sat>=1 23 1; 1980 Sep 29 1 0;
    1981 Sep 27 2 0.
  Czechia = 1945 Apr Mon>=1 2s 1; 1945 Oct 1 2s 0; 1946 May 6 2s 1; 1946-1949 Oct Sun>=1 2s 0;
    1947-1948 Apr Sun>=15 2s 1; 1949 Apr 9 2s 1.
  Thule = 1991-1992 Mar lastSun 2 1; 1991-1992 Sep lastSun 2 0; 1993-2006 Apr Sun>=1 2 1;
    1993-2006 Oct lastSun 2 0; 2007- Mar Sun>=8 2 1; 2007- Nov Sun>=1 2 0.
  Finland = 1942 Apr 2 24 1; 1942 Oct 4 1 0; 1981-1982 Mar lastSun 2 1; 1981-1982 Sep lastSun 3 0.
  France = 1916 Jun 14 23s 1; 1916-1919 Oct Sun>=1 23s 0; 1917 Mar 24 23s 1; 1918 Mar 9 23s 1;
    1919 Mar 1 23s 1; 1920 Feb 14 23s 1; 1920 Oct 23 23s 0; 1921 Mar 14 23s 1; 1921 Oct 25 23s 0;
    1922 Mar 25 23s 1; 1922-1938 Oct Sat>=1 23s 0; 1923 May 26 23s 1; 1924 Mar 29 23s 1;
    1925 Apr 4 23s 1; 1926 Apr 17 23s 1; 1927 Apr 9 23s 1; 1928 Apr 14 23s 1; 1929 Apr 20 23s 1;
    1930 Apr 12 23s 1; 1931 Apr 18 23s 1; 1932 Apr 2 23s 1; 1933 Mar 25 23s 1; 1934 Apr 7 23s 1;
    1935 Mar 30 23s 1; 1936 Apr 18 23s 1; 1937 Apr 3 23s 1; 1938 Mar 26 23s 1; 1939 Apr 15 23s 1;
    1939 Nov 18 23s 0; 1940 Feb 25 2 1; 1941 May 5 0 2; 1941 Oct 6 0 1; 1942 Mar 9 0 2;
    1942 Nov 2 3 1; 1943 Mar 29 2 2; 1943 Oct 4 3 1; 1944 Apr 3 2 2; 1944 Oct 8 1 1;
    1945 Apr 2 2 2; 1945 Sep 16 3 0; 1976 Mar 28 1 1; 1976 Sep 26 1 0.
  Germany = 1946 Apr 14 2s 1; 1946 Oct 7 2s 0; 1947-1949 Oct Sun>=1 2s 0; 1947 Apr 6 3s 1;
    1947 May 11 2s 2; 1947 Jun 29 3 1; 1948 Apr 18 2s 1; 1949 Apr 10 2s 1.
  SovietZone = 1945 May 24 2 2; 1945 Sep 24 3 1; 1945 Nov 18 2s 0.
  Greece = 1932 Jul 7 0 1; 1932 Sep 1 0 0; 1941 Apr 7 0 1; 1942 Nov 2 3 0; 1943 Mar 30 0 1;
    1943 Oct 4 0 0; 1952 Jul 1 0 1; 1952 Nov 2 0 0; 1975 Apr 12 0s 1; 1975 Nov 26 0s 0;
    1976 Apr 11 2s 1; 1976 Oct 10 2s 0; 1977-1978 Apr Sun>=1 2s 1; 1977 Sep 26 2s 0;
    1978 Sep 24 4 0; 1979 Apr 1 9 1; 1979 Sep 29 2 0; 1980 Apr 1 0 1; 1980 Sep 28 0 0.
  Hungary = 1918-1919 Apr 15 2 1; 1918-1920 Sep Mon>=15 3 0; 1920 Apr 5 2 1; 1945 May 1 23 1;
    1945 Nov 1 1 0; 1946 Mar 31 2s 1; 1946 Oct 7 2 0; 1947-1949 Apr Sun>=4 2s 1;
    1947-1949 Oct Sun>=1 2s 0; 1954 May 23 0 1; 1954 Oct 3 0 0; 1955 May 22 2 1; 1955 Oct 2 3 0;
    1956-1957 Jun Sun>=1 2 1; 1956-1957 Sep lastSun 3 0; 1980 Apr 6 0 1; 1980 Sep 28 1 0;
    1981-1983 Mar lastSun 0 1; 1981-1983 Sep lastSun 1 0.
  Italy = 1916 Jun 3 24 1; 1916-1917 Sep 30 24 0; 1917 Mar 31 24 1; 1918 Mar 9 24 1;
    1918 Oct 6 24 0; 1919 Mar 1 24 1; 1919 Oct 4 24 0; 1920 Mar 20 24 1; 1920 Sep 18 24 0;
    1940 Jun 14 24 1; 1942 Nov 2 2s 0; 1943 Mar 29 2s 1; 1943 Oct 4 2s 0; 1944 Apr 2 2s 1;
    1944 Sep 17 2s 0; 1945 Apr 2 2 1; 1945 Sep 15 1 0; 1946 Mar 17 2s 1; 1946 Oct 6 2s 0;
    1947 Mar 16 0s 1; 1947 Oct 5 0s 0; 1948 Feb 29 2s 1; 1948 Oct 3 2s 0;
    1966-1968 May Sun>=22 0s 1; 1966 Sep 24 24 0; 1967-1969 Sep Sun>=22 0s 0; 1969 Jun 1 0s 1;
    1970 May 31 0s 1; 1970 Sep lastSun 0s 0; 1971-1972 May Sun>=22 0s 1; 1971 Sep lastSun 0s 0;
    1972 Oct 1 0s 0; 1973 Jun 3 0s 1; 1973-1974 Sep lastSun 0s 0; 1974 May 26 0s 1;
    1975 Jun 1 0s 1; 1975-1977 Sep lastSun 0s 0; 1976 May 30 0s 1; 1977-1979 May Sun>=22 0s 1;
    1978 Oct 1 0s 0; 1979 Sep 30 0s 0.
  Latvia = 1989-1996 Mar lastSun 2s 1; 1989-1996 Sep lastSun 2s 0.
  Malta = 1973 Mar 31 0s 1; 1973 Sep 29 0s 0; 1974 Apr 21 0s 1; 1974 Sep 16 0s 0;
    1975-1979 Apr Sun>=15 2 1; 1975-1980 Sep Sun>=15 2 0; 1980 Mar 31 2 1.
  Moldova = 1997-2021 Mar lastSun 2 1; 1997-2021 Oct lastSun 3 0.
  Poland = 1918-1919 Sep 16 2s 0; 1919 Apr 15 2s 1; 1944 Apr 3 2s 1; 1944 Oct 4 2 0;
    1945 Apr 29 0 1; 1945 Nov 1 0 0; 1946 Apr 14 0s 1; 1946 Oct 7 2s 0; 1947 May 4 2s 1;
    1947-1949 Oct Sun>=1 2s 0; 1948 Apr 18 2s 1; 1949 Apr 10 2s 1; 1957 Jun 2 1s 1;
    1957-1958 Sep lastSun 1s 0; 1958 Mar 30 1s 1; 1959 May 31 1s 1; 1959-1961 Oct Sun>=1 1s 0;
    1960 Apr 3 1s 1; 1961-1964 May lastSun 1s 1; 1962-1964 Sep lastSun 1s 0.
  Portugal = 1916 Jun 17 23 1; 1916 Nov 1 1 0; 1917-1921 Mar 1 0 1; 1917-1921 Oct 14 24 0;
    1924 Apr 16 23s 1; 1924 Oct 4 23s 0; 1926 Apr 17 23s 1; 1926-1929 Oct Sat>=1 23s 0;
    1927 Apr 9 23s 1; 1928 Apr 14 23s 1; 1929 Apr 20 23s 1; 1931 Apr 18 23s 1;
    1931-1932 Oct Sat>=1 23s 0; 1932 Apr 2 23s 1; 1934 Apr 7 23s 1; 1934-1938 Oct Sat>=1 23s 0;
    1935 Mar 30 23s 1; 1936 Apr 18 23s 1; 1937 Apr 3 23s 1; 1938 Mar 26 23s 1; 1939 Apr 15 23s 1;
    1939 Nov 18 23s 0; 1940 Feb 24 23s 1; 1940 Oct 7 23s 0; 1941 Apr 5 23s 1; 1941 Oct 5 23s 0;
    1942-1945 Mar Sat>=8 23s 1; 1942 Apr 25 22s 2; 1942 Aug 15 22s 1; 1942-1945 Oct Sat>=24 23s 0;
    1943 Apr 17 22s 2; 1943-1945 Aug Sat>=25 22s 1; 1944-1945 Apr Sat>=21 22s 2;
    1946 Apr Sat>=1 23s 1; 1946 Oct Sat>=1 23s 0; 1947-1966 Apr Sun>=1 2s 1;
    1947-1965 Oct Sun>=1 2s 0; 1976 Sep lastSun 1 0; 1977 Mar lastSun 0s 1; 1977 Sep lastSun 0s 0;
    1978-1980 Apr Sun>=1 1s 1; 1978 Oct 1 1s 0; 1979-1980 Sep lastSun 1s 0;
    1981-1986 Mar lastSun 0s 1; 1981-1985 Sep lastSun 0s 0.
  Romania = 1932 May 21 0s 1; 1932-1939 Oct Sun>=1 0s 0; 1933-1939 Apr Sun>=2 0s 1;
    1979 May 27 0 1; 1979 Sep lastSun 0 0; 1980 Apr 5 23 1; 1980 Sep lastSun 1 0;
    1991-1993 Mar lastSun 0s 1; 1991-1993 Sep lastSun 0s 0.
  Spain = 1918 Apr 15 23 1; 1918-1919 Oct 6 24s 0; 1919 Apr 6 23 1; 1924 Apr 16 23 1;
    1924 Oct 4 24s 0; 1926 Apr 17 23 1; 1926-1929 Oct Sat>=1 24s 0; 1927 Apr 9 23 1;
    1928 Apr 15 0 1; 1929 Apr 20 23 1; 1937 Jun 16 23 1; 1937 Oct 2 24s 0; 1938 Apr 2 23 1;
    1938 Apr 30 23 2; 1938 Oct 2 24 1; 1939 Oct 7 24s 0; 1942 May 2 23 1; 1942 Sep 1 1 0;
    1943-1946 Apr Sat>=13 23 1; 1943-1944 Oct Sun>=1 1 0; 1945-1946 Sep lastSun 1 0;
    1949 Apr 30 23 1; 1949 Oct 2 1 0; 1974-1975 Apr Sat>=12 23 1; 1974-1975 Oct Sun>=1 1 0;
    1976 Mar 27 23 1; 1976-1977 Sep lastSun 1 0; 1977 Apr 2 23 1; 1978 Apr 2 2s 1;
    1978 Oct 1 2s 0.
  SpanishAfrica = 1967 Jun 3 12 1; 1967 Oct 1 0 0; 1974 Jun 24 0 1; 1974 Sep 1 0 0;
    1976-1977 May 1 0 1; 1976 Aug 1 0 0; 1977 Sep 28 0 0; 1978 Jun 1 0 1; 1978 Aug 4 0 0.
  Switzerland = 1941-1942 May Mon>=1 1 1; 1941-1942 Oct Mon>=1 2 0.
  Turkey = 1916 May 1 0 1; 1916 Oct 1 0 0; 1920 Mar 28 0 1; 1920 Oct 25 0 0; 1921 Apr 3 0 1;
    1921 Oct 3 0 0; 1922 Mar 26 0 1; 1922 Oct 8 0 0; 1924 May 13 0 1; 1924-1925 Oct 1 0 0;
    1925 May 1 0 1; 1940 Jul 1 0 1; 1940 Oct 6 0 0; 1940 Dec 1 0 1; 1941 Sep 21 0 0;
    1942 Apr 1 0 1; 1945 Oct 8 0 0; 1946 Jun 1 0 1; 1946 Oct 1 0 0; 1947-1948 Apr Sun>=16 0 1;
    1947-1951 Oct Sun>=2 0 0; 1949 Apr 10 0 1; 1950 Apr 16 0 1; 1951 Apr 22 0 1; 1962 Jul 15 0 1;
    1963 Oct 30 0 0; 1964 May 15 0 1; 1964 Oct 1 0 0; 1973 Jun 3 1 1; 1973-1976 Oct Sun>=31 2 0;
    1974 Mar 31 2 1; 1975 Mar 22 2 1; 1976 Mar 21 2 1; 1977-1978 Apr Sun>=1 2 1;
    1977-1978 Oct Sun>=15 2 0; 1978 Jun 29 0 0; 1983 Jul 31 2 1; 1983 Oct 2 2 0; 1985 Apr 20 1s 1;
    1985 Sep 28 1s 0; 1986-1993 Mar lastSun 1s 1; 1986-1995 Sep lastSun 1s 0; 1994 Mar 20 1s 1;
    1995-2006 Mar lastSun 1s 1; 1996-2006 Oct lastSun 1s 0."

/-- The zones. -/
def europeZones : String := "
  Europe/Andorra = 0:6:4 - 1901; 0 - 1946 Sep 30; 1 - 1985 Mar 31 2; 1 EU.
  Europe/Astrakhan = 3:12:12 - 1924 May; 3 - 1930 Jun 21; 4 Russia 1989 Mar 26 2s;
    3 Russia 1991 Mar 31 2s; 4 - 1992 Mar 29 2s; 3 Russia 2011 Mar 27 2s; 4 - 2014 Oct 26 2s;
    3 - 2016 Mar 27 2s; 4 -.
  Europe/Athens = 1:34:52 - 1895 Sep 14; 1:34:52 - 1916 Jul 28 0:1; 2 Greece 1941 Apr 30;
    1 Greece 1944 Apr 4; 2 Greece 1981; 2 EU.
  Europe/Belgrade = 1:22 - 1884; 1 - 1941 Apr 18 23; 1 CentralEurope 1945; 1 - 1945 May 8 2s;
    1 1 1945 Sep 16 2s; 1 - 1982 Nov 27; 1 EU.
  Europe/Berlin = 0:53:28 - 1893 Apr; 1 CentralEurope 1945 May 24 2; 1 SovietZone 1946;
    1 Germany 1980; 1 EU.
  Europe/Brussels = 0:17:30 - 1880; 0:17:30 - 1892 May 1 0:17:30; 0 - 1914 Nov 8; 1 - 1916 May;
    1 CentralEurope 1918 Nov 11 11u; 0 Belgium 1940 May 20 2s; 1 CentralEurope 1944 Sep 3;
    1 Belgium 1977; 1 EU.
  Europe/Bucharest = 1:44:24 - 1891 Oct; 1:44:24 - 1931 Jul 24; 2 Romania 1981 Mar 29 2s;
    2 CentralEurope 1991; 2 Romania 1994; 2 EasternEurope 1997; 2 EU.
  Europe/Budapest = 1:16:20 - 1890 Nov; 1 CentralEurope 1918; 1 Hungary 1941 Apr 7 23;
    1 CentralEurope 1945; 1 Hungary 1984; 1 EU.
  Europe/Chisinau = 1:55:20 - 1880; 1:55 - 1918 Feb 15; 1:44:24 - 1931 Jul 24;
    2 Romania 1940 Aug 15; 2 1 1941 Jul 17; 1 CentralEurope 1944 Aug 24; 3 Russia 1990 May 6 2;
    2 Russia 1992; 2 EasternEurope 1997; 2 Moldova 2022; 2 EU.
  Europe/Dublin = -0:25:21 - 1880 Aug 2; -0:25:21 - 1916 May 21 2s; -0:25:21 1 1916 Oct 1 2s;
    0 BritishIsles 1921 Dec 6; 0 BritishIsles 1940 Feb 25 2s; 0 1 1946 Oct 6 2s;
    0 - 1947 Mar 16 2s; 0 1 1947 Nov 2 2s; 0 - 1948 Apr 18 2s; 0 BritishIsles 1968 Oct 27;
    1 - 1971 Oct 31 2u; 0 BritishIsles 1996; 0 EU.
  Europe/Gibraltar = -0:21:24 - 1880 Aug 2; 0 BritishIsles 1957 Apr 14 2; 1 - 1982; 1 EU.
  Europe/Helsinki = 1:39:49 - 1878 May 31; 1:39:49 - 1921 May; 2 Finland 1983; 2 EU.
  Europe/Istanbul = 1:55:52 - 1880; 1:56:56 - 1910 Oct; 2 Turkey 1978 Jun 29;
    3 Turkey 1984 Nov 1 2; 2 Turkey 2007; 2 EU 2011 Mar 27 1u; 2 - 2011 Mar 28 1u;
    2 EU 2014 Mar 30 1u; 2 - 2014 Mar 31 1u; 2 EU 2015 Oct 25 1u; 2 1 2015 Nov 8 1u;
    2 EU 2016 Sep 7; 3 -.
  Europe/Kaliningrad = 1:22 - 1893 Apr; 1 CentralEurope 1945 Apr 10; 2 Poland 1946 Apr 7;
    3 Russia 1989 Mar 26 2s; 2 Russia 2011 Mar 27 2s; 3 - 2014 Oct 26 2s; 2 -.
  Europe/Kirov = 3:18:48 - 1919 Jul 1 0u; 3 - 1930 Jun 21; 4 Russia 1989 Mar 26 2s;
    3 Russia 1991 Mar 31 2s; 4 - 1992 Mar 29 2s; 3 Russia 2011 Mar 27 2s; 4 - 2014 Oct 26 2s; 3 -.
  Europe/Kyiv = 2:2:4 - 1880; 2:2:4 - 1924 May 2; 2 - 1930 Jun 21; 3 - 1941 Sep 20;
    1 CentralEurope 1943 Nov 6; 3 Russia 1990 Jul 1 2; 2 1 1991 Sep 29 3;
    2 CentralEurope 1996 May 13; 2 EU.
  Europe/Lisbon = -0:36:45 - 1884; -0:36:45 - 1912 Jan 1 0u; 0 Portugal 1966 Oct 2 2s;
    1 - 1976 Sep 26 1; 0 Portugal 1986; 0 EU 1992 Sep 27 1u; 1 EU 1996 Mar 31 1u; 0 EU.
  Europe/London = -0:1:15 - 1847 Dec; 0 BritishIsles 1968 Oct 27; 1 - 1971 Oct 31 2u;
    0 BritishIsles 1996; 0 EU.
  Europe/Madrid = -0:14:44 - 1901 Jan 1 0u; 0 Spain 1940 Mar 16 23; 1 Spain 1979; 1 EU.
  Europe/Malta = 0:58:4 - 1893 Nov 2; 1 Italy 1973 Mar 31; 1 Malta 1981; 1 EU.
  Europe/Minsk = 1:50:16 - 1880; 1:50 - 1924 May 2; 2 - 1930 Jun 21; 3 - 1941 Jun 28;
    1 CentralEurope 1944 Jul 3; 3 Russia 1990; 3 - 1991 Mar 31 2s; 2 Russia 2011 Mar 27 2s; 3 -.
  Europe/Moscow = 2:30:17 - 1880; 2:30:17 - 1916 Jul 3; 2:31:19 Russia 1919 Jul 1 0u;
    3 Russia 1921 Oct; 3 Russia 1922 Oct; 2 - 1930 Jun 21; 3 Russia 1991 Mar 31 2s;
    2 Russia 1992 Jan 19 2s; 3 Russia 2011 Mar 27 2s; 4 - 2014 Oct 26 2s; 3 -.
  Europe/Paris = 0:9:21 - 1891 Mar 16; 0:9:21 - 1911 Mar 11; 0 France 1940 Jun 14 23;
    1 CentralEurope 1944 Aug 25; 0 France 1945 Sep 16 3; 1 France 1977; 1 EU.
  Europe/Prague = 0:57:44 - 1850; 0:57:44 - 1891 Oct; 1 CentralEurope 1945 May 9;
    1 Czechia 1946 Dec 1 3; 0 - 1947 Feb 23 2; 1 Czechia 1979; 1 EU.
  Europe/Riga = 1:36:34 - 1880; 1:36:34 - 1918 Apr 15 2; 1:36:34 1 1918 Sep 16 3;
    1:36:34 - 1919 Apr 1 2; 1:36:34 1 1919 May 22 3; 1:36:34 - 1926 May 11; 2 - 1940 Aug 5;
    3 - 1941 Jul; 1 CentralEurope 1944 Oct 13; 3 Russia 1989 Mar lastSun 2s;
    2 1 1989 Sep lastSun 2s; 2 Latvia 1997 Jan 21; 2 EU 2000 Feb 29; 2 - 2001 Jan 2; 2 EU.
  Europe/Rome = 0:49:56 - 1866 Dec 12; 0:49:56 - 1893 Oct 31 23u; 1 Italy 1943 Sep 10;
    1 CentralEurope 1944 Jun 4; 1 Italy 1980; 1 EU.
  Europe/Samara = 3:20:20 - 1919 Jul 1 0u; 3 - 1930 Jun 21; 4 - 1935 Jan 27;
    4 Russia 1989 Mar 26 2s; 3 Russia 1991 Mar 31 2s; 2 Russia 1991 Sep 29 2s; 3 - 1991 Oct 20 3;
    4 Russia 2010 Mar 28 2s; 3 Russia 2011 Mar 27 2s; 4 -.
  Europe/Saratov = 3:4:18 - 1919 Jul 1 0u; 3 - 1930 Jun 21; 4 Russia 1988 Mar 27 2s;
    3 Russia 1991 Mar 31 2s; 4 - 1992 Mar 29 2s; 3 Russia 2011 Mar 27 2s; 4 - 2014 Oct 26 2s;
    3 - 2016 Dec 4 2s; 4 -.
  Europe/Simferopol = 2:16:24 - 1880; 2:16 - 1924 May 2; 2 - 1930 Jun 21; 3 - 1941 Nov;
    1 CentralEurope 1944 Apr 13; 3 Russia 1990; 3 - 1990 Jul 1 2; 2 - 1992 Mar 20;
    2 CentralEurope 1994 May; 3 CentralEurope 1996 Mar 31 0s; 3 1 1996 Oct 27 3s;
    3 - 1997 Mar lastSun 1u; 2 EU 2014 Mar 30 2; 4 - 2014 Oct 26 2s; 3 -.
  Europe/Sofia = 1:33:16 - 1880; 1:56:56 - 1894 Nov 30; 2 - 1942 Nov 2 3; 1 CentralEurope 1945;
    1 - 1945 Apr 2 3; 2 - 1979 Mar 31 23; 2 Bulgaria 1982 Sep 26 3; 2 CentralEurope 1991;
    2 EasternEurope 1997; 2 EU.
  Europe/Tallinn = 1:39 - 1880; 1:39 - 1918 Feb; 1 CentralEurope 1919 Jul; 1:39 - 1921 May;
    2 - 1940 Aug 6; 3 - 1941 Sep 15; 1 CentralEurope 1944 Sep 22; 3 Russia 1989 Mar 26 2s;
    2 1 1989 Sep 24 2s; 2 CentralEurope 1998 Sep 22; 2 EU 1999 Oct 31 4; 2 - 2002 Feb 21; 2 EU.
  Europe/Tirane = 1:19:20 - 1914; 1 - 1940 Jun 16; 1 Albania 1984 Jul; 1 EU.
  Europe/Ulyanovsk = 3:13:36 - 1919 Jul 1 0u; 3 - 1930 Jun 21; 4 Russia 1989 Mar 26 2s;
    3 Russia 1991 Mar 31 2s; 2 Russia 1992 Jan 19 2s; 3 Russia 2011 Mar 27 2s; 4 - 2014 Oct 26 2s;
    3 - 2016 Mar 27 2s; 4 -.
  Europe/Vienna = 1:5:21 - 1893 Apr; 1 CentralEurope 1920; 1 Austria 1940 Apr 1 2s;
    1 CentralEurope 1945 Apr 2 2s; 1 1 1945 Apr 12 2s; 1 - 1946; 1 Austria 1981; 1 EU.
  Europe/Vilnius = 1:41:16 - 1880; 1:24 - 1917; 1:35:36 - 1919 Oct 10; 1 - 1920 Jul 12;
    2 - 1920 Oct 9; 1 - 1940 Aug 3; 3 - 1941 Jun 24; 1 CentralEurope 1944 Aug;
    3 Russia 1989 Mar 26 2s; 2 Russia 1991 Sep 29 2s; 2 CentralEurope 1998; 2 - 1998 Mar 29 1u;
    1 EU 1999 Oct 31 1u; 2 - 2003; 2 EU.
  Europe/Volgograd = 2:57:40 - 1920 Jan 3; 3 - 1930 Jun 21; 4 - 1961 Nov 11;
    4 Russia 1988 Mar 27 2s; 3 Russia 1991 Mar 31 2s; 4 - 1992 Mar 29 2s; 3 Russia 2011 Mar 27 2s;
    4 - 2014 Oct 26 2s; 3 - 2018 Oct 28 2s; 4 - 2020 Dec 27 2s; 3 -.
  Europe/Warsaw = 1:24 - 1880; 1:24 - 1915 Aug 5; 1 CentralEurope 1918 Sep 16 3;
    2 Poland 1922 Jun; 1 Poland 1940 Jun 23 2; 1 CentralEurope 1944 Oct; 1 Poland 1977;
    1 WesternEurope 1988; 1 EU.
  Europe/Zurich = 0:34:8 - 1853 Jul 16; 0:29:46 - 1894 Jun; 1 Switzerland 1981; 1 EU."

end ZoneData

end TransitDwell
