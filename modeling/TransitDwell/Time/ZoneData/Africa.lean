/-!
# Zones of Africa

Entries of the time zone database for Africa.
-/

namespace TransitDwell

namespace ZoneData

/-- The yearly changes of clocks that are laid down there. -/
def africaChanges : String := "
  Algeria = 1916 Jun 14 23s 1; 1916-1919 Oct Sun>=1 23s 0; 1917 Mar 24 23s 1; 1918 Mar 9 23s 1;
    1919 Mar 1 23s 1; 1920 Feb 14 23s 1; 1920 Oct 23 23s 0; 1921 Mar 14 23s 1; 1921 Jun 21 23s 0;
    1939 Sep 11 23s 1; 1939 Nov 19 1 0; 1944-1945 Apr Mon>=1 2 1; 1944 Oct 8 2 0; 1945 Sep 16 1 0;
    1971 Apr 25 23s 1; 1971 Sep 26 23s 0; 1977 May 6 0 1; 1977 Oct 21 0 0; 1978 Mar 24 1 1;
    1978 Sep 22 3 0; 1980 Apr 25 0 1; 1980 Oct 31 2 0.
  Egypt = 1940 Jul 15 0 1; 1940 Oct 1 0 0; 1941 Apr 15 0 1; 1941 Sep 16 0 0; 1942-1944 Apr 1 0 1;
    1942 Oct 27 0 0; 1943-1945 Nov 1 0 0; 1945 Apr 16 0 1; 1957 May 10 0 1; 1957-1958 Oct 1 0 0;
    1958 May 1 0 1; 1959-1981 May 1 1 1; 1959-1965 Sep 30 3 0; 1966-1994 Oct 1 3 0;
    1982 Jul 25 1 1; 1983 Jul 12 1 1; 1984-1988 May 1 1 1; 1989 May 6 1 1; 1990-1994 May 1 1 1;
    1995-2010 Apr lastFri 0s 1; 1995-2005 Sep lastThu 24 0; 2006 Sep 21 24 0;
    2007 Sep Thu>=1 24 0; 2008 Aug lastThu 24 0; 2009 Aug 20 24 0; 2010 Aug 10 24 0;
    2010 Sep 9 24 1; 2010 Sep lastThu 24 0; 2014 May 15 24 1; 2014 Jun 26 24 0; 2014 Jul 31 24 1;
    2014 Sep lastThu 24 0; 2023- Apr lastFri 0 1; 2023- Oct lastThu 24 0.
  Libya = 1951 Oct 14 2 1; 1952 Jan 1 0 0; 1953 Oct 9 2 1; 1954 Jan 1 0 0; 1955 Sep 30 0 1;
    1956 Jan 1 0 0; 1982-1984 Apr 1 0 1; 1982-1985 Oct 1 0 0; 1985 Apr 6 0 1; 1986 Apr 4 0 1;
    1986 Oct 3 0 0; 1987-1989 Apr 1 0 1; 1987-1989 Oct 1 0 0; 1997 Apr 4 0 1; 1997 Oct 4 0 0;
    2013 Mar lastFri 1 1; 2013 Oct lastFri 2 0.
  Mauritius = 1982 Oct 10 0 1; 1983 Mar 21 0 0; 2008 Oct lastSun 2 1; 2009 Mar lastSun 2 0.
  Morocco = 1939 Sep 12 0 1; 1939 Nov 19 0 0; 1940 Feb 25 0 1; 1945 Nov 18 0 0; 1950 Jun 11 0 1;
    1950 Oct 29 0 0; 1967 Jun 3 12 1; 1967 Oct 1 0 0; 1974 Jun 24 0 1; 1974 Sep 1 0 0;
    1976-1977 May 1 0 1; 1976 Aug 1 0 0; 1977 Sep 28 0 0; 1978 Jun 1 0 1; 1978 Aug 4 0 0;
    2008 Jun 1 0 1; 2008 Sep 1 0 0; 2009 Jun 1 0 1; 2009 Aug 21 0 0; 2010 May 2 0 1;
    2010 Aug 8 0 0; 2011 Apr 3 0 1; 2011 Jul 31 0 0; 2012-2013 Apr lastSun 2 1; 2012 Jul 20 3 0;
    2012 Aug 20 2 1; 2012 Sep 30 3 0; 2013 Jul 7 3 0; 2013 Aug 10 2 1; 2013-2017 Oct lastSun 3 0;
    2014-2018 Mar lastSun 2 1; 2014 Jun 28 3 0; 2014 Aug 2 2 1; 2015 Jun 14 3 0; 2015 Jul 19 2 1;
    2016 Jun 5 3 0; 2016 Jul 10 2 1; 2017 May 21 3 0; 2017 Jul 2 2 1; 2018 May 13 3 0;
    2018 Jun 17 2 1; 2019 May 5 3 0; 2019 Jun 9 2 1; 2020 Apr 19 3 0; 2020 May 31 2 1;
    2021 Apr 11 3 0; 2021 May 16 2 1; 2022 Mar 27 3 0; 2022 May 8 2 1; 2023 Mar 19 3 0;
    2023 Apr 23 2 1; 2024 Mar 10 3 0; 2024 Apr 14 2 1; 2025 Feb 23 3 0; 2025 Apr 6 2 1;
    2026 Feb 15 3 0; 2026 Mar 22 2 1; 2027 Feb 7 3 0; 2027 Mar 14 2 1; 2028 Jan 23 3 0;
    2028 Mar 5 2 1; 2029 Jan 14 3 0; 2029 Feb 18 2 1; 2029 Dec 30 3 0; 2030 Feb 10 2 1;
    2030 Dec 22 3 0; 2031 Jan 26 2 1; 2031 Dec 14 3 0; 2032 Jan 18 2 1; 2032 Nov 28 3 0;
    2033 Jan 9 2 1; 2033 Nov 20 3 0; 2033 Dec 25 2 1; 2034 Nov 5 3 0; 2034 Dec 17 2 1;
    2035 Oct 28 3 0; 2035 Dec 9 2 1; 2036 Oct 19 3 0; 2036 Nov 23 2 1; 2037 Oct 4 3 0;
    2037 Nov 15 2 1; 2038 Sep 26 3 0; 2038 Oct 31 2 1; 2039 Sep 18 3 0; 2039 Oct 23 2 1;
    2040 Sep 2 3 0; 2040 Oct 14 2 1; 2041 Aug 25 3 0; 2041 Sep 29 2 1; 2042 Aug 10 3 0;
    2042 Sep 21 2 1; 2043 Aug 2 3 0; 2043 Sep 13 2 1; 2044 Jul 24 3 0; 2044 Aug 28 2 1;
    2045 Jul 9 3 0; 2045 Aug 20 2 1; 2046 Jul 1 3 0; 2046 Aug 5 2 1; 2047 Jun 23 3 0;
    2047 Jul 28 2 1; 2048 Jun 7 3 0; 2048 Jul 19 2 1; 2049 May 30 3 0; 2049 Jul 4 2 1;
    2050 May 15 3 0; 2050 Jun 26 2 1; 2051 May 7 3 0; 2051 Jun 18 2 1; 2052 Apr 28 3 0;
    2052 Jun 2 2 1; 2053 Apr 13 3 0; 2053 May 25 2 1; 2054 Apr 5 3 0; 2054 May 10 2 1;
    2055 Mar 28 3 0; 2055 May 2 2 1; 2056 Mar 12 3 0; 2056 Apr 23 2 1; 2057 Mar 4 3 0;
    2057 Apr 8 2 1; 2058 Feb 17 3 0; 2058 Mar 31 2 1; 2059 Feb 9 3 0; 2059 Mar 23 2 1;
    2060 Feb 1 3 0; 2060 Mar 7 2 1; 2061 Jan 16 3 0; 2061 Feb 27 2 1; 2062 Jan 8 3 0;
    2062 Feb 12 2 1; 2062 Dec 31 3 0; 2063 Feb 4 2 1; 2063 Dec 16 3 0; 2064 Jan 27 2 1;
    2064 Dec 7 3 0; 2065 Jan 11 2 1; 2065 Nov 22 3 0; 2066 Jan 3 2 1; 2066 Nov 14 3 0;
    2066 Dec 26 2 1; 2067 Nov 6 3 0; 2067 Dec 11 2 1; 2068 Oct 21 3 0; 2068 Dec 2 2 1;
    2069 Oct 13 3 0; 2069 Nov 17 2 1; 2070 Oct 5 3 0; 2070 Nov 9 2 1; 2071 Sep 20 3 0;
    2071 Nov 1 2 1; 2072 Sep 11 3 0; 2072 Oct 16 2 1; 2073 Aug 27 3 0; 2073 Oct 8 2 1;
    2074 Aug 19 3 0; 2074 Sep 30 2 1; 2075 Aug 11 3 0; 2075 Sep 15 2 1; 2076 Jul 26 3 0;
    2076 Sep 6 2 1; 2077 Jul 18 3 0; 2077 Aug 22 2 1; 2078 Jul 10 3 0; 2078 Aug 14 2 1;
    2079 Jun 25 3 0; 2079 Aug 6 2 1; 2080 Jun 16 3 0; 2080 Jul 21 2 1; 2081 Jun 1 3 0;
    2081 Jul 13 2 1; 2082 May 24 3 0; 2082 Jun 28 2 1; 2083 May 16 3 0; 2083 Jun 20 2 1;
    2084 Apr 30 3 0; 2084 Jun 11 2 1; 2085 Apr 22 3 0; 2085 May 27 2 1; 2086 Apr 14 3 0;
    2086 May 19 2 1; 2087 Mar 30 3 0; 2087 May 11 2 1.
  Namibia = 1994 Mar 21 0 0; 1994-2017 Sep Sun>=1 2 1; 1995-2017 Apr Sun>=1 2 0.
  SouthAfrica = 1942-1943 Sep Sun>=15 2 1; 1943-1944 Mar Sun>=15 2 0.
  Sudan = 1970 May 1 0 1; 1970-1985 Oct 15 0 0; 1971 Apr 30 0 1; 1972-1985 Apr lastSun 0 1.
  Tunisia = 1939 Apr 15 23s 1; 1939 Nov 18 23s 0; 1940 Feb 25 23s 1; 1941 Oct 6 0 0;
    1942 Mar 9 0 1; 1942 Nov 2 3 0; 1943 Mar 29 2 1; 1943 Apr 17 2 0; 1943 Apr 25 2 1;
    1943 Oct 4 2 0; 1944-1945 Apr Mon>=1 2 1; 1944 Oct 8 0 0; 1945 Sep 16 0 0; 1977 Apr 30 0s 1;
    1977 Sep 24 0s 0; 1978 May 1 0s 1; 1978 Oct 1 0s 0; 1988 Jun 1 0s 1;
    1988-1990 Sep lastSun 0s 0; 1989 Mar 26 0s 1; 1990 May 1 0s 1; 2005 May 1 0s 1;
    2005 Sep 30 1s 0; 2006-2008 Mar lastSun 2s 1; 2006-2008 Oct lastSun 2s 0."

/-- The zones. -/
def africaZones : String := "
  Africa/Abidjan = -0:16:8 - 1912; 0 -.
  Africa/Algiers = 0:12:12 - 1891 Mar 16; 0:9:21 - 1911 Mar 11; 0 Algeria 1940 Feb 25 2;
    1 Algeria 1946 Oct 7; 0 - 1956 Jan 29; 1 - 1963 Apr 14; 0 Algeria 1977 Oct 21;
    1 Algeria 1979 Oct 26; 0 Algeria 1981 May; 1 -.
  Africa/Bissau = -1:2:20 - 1912 Jan 1 1u; -1 - 1975; 0 -.
  Africa/Cairo = 2:5:9 - 1900 Oct; 2 Egypt.
  Africa/Casablanca = -0:30:20 - 1913 Oct 26; 0 Morocco 1984 Mar 16; 1 - 1986;
    0 Morocco 2018 Oct 28 3; 0 Morocco.
  Africa/Ceuta = -0:21:16 - 1901 Jan 1 0u; 0 - 1918 May 6 23; 0 1 1918 Oct 7 23; 0 - 1924;
    0 Spain 1929; 0 - 1967; 0 SpanishAfrica 1984 Mar 16; 1 - 1986; 1 EU.
  Africa/El_Aaiun = -0:52:48 - 1934; -1 - 1976 Apr 14; 0 Morocco 2018 Oct 28 3; 0 Morocco.
  Africa/Johannesburg = 1:52 - 1892 Feb 8; 1:30 - 1903 Mar; 2 SouthAfrica.
  Africa/Juba = 2:6:28 - 1931; 2 Sudan 2000 Jan 15 12; 3 - 2021 Feb; 2 -.
  Africa/Khartoum = 2:10:8 - 1931; 2 Sudan 2000 Jan 15 12; 3 - 2017 Nov; 2 -.
  Africa/Lagos = 0:13:35 - 1905 Jul; 0 - 1908 Jul; 0:13:35 - 1914; 0:30 - 1919 Sep; 1 -.
  Africa/Maputo = 2:10:18 - 1909; 2 -.
  Africa/Monrovia = -0:43:8 - 1882; -0:43:8 - 1919 Mar; -0:44:30 - 1972 Jan 7; 0 -.
  Africa/Nairobi = 2:27:16 - 1908 May; 2:30 - 1928 Jun 30 24; 3 - 1930 Jan 4 24;
    2:30 - 1936 Dec 31 24; 2:45 - 1942 Jul 31 24; 3 -.
  Africa/Ndjamena = 1:0:12 - 1912; 1 - 1979 Oct 14; 1 1 1980 Mar 8; 1 -.
  Africa/Sao_Tome = 0:26:56 - 1884; -0:36:45 - 1912 Jan 1 0u; 0 - 2018 Jan 1 1; 1 - 2019 Jan 1 2;
    0 -.
  Africa/Tripoli = 0:52:44 - 1920; 1 Libya 1959; 2 - 1982; 1 Libya 1990 May 4; 2 - 1996 Sep 30;
    1 Libya 1997 Oct 4; 2 - 2012 Nov 10 2; 1 Libya 2013 Oct 25 2; 2 -.
  Africa/Tunis = 0:40:44 - 1881 May 12; 0:9:21 - 1911 Mar 11; 1 Tunisia.
  Africa/Windhoek = 1:8:24 - 1892 Feb 8; 1:30 - 1903 Mar; 2 - 1942 Sep 20 2; 2 1 1943 Mar 21 2;
    2 - 1990 Mar 21; 2 - 1994 Mar 21; 1 Namibia 2017 Oct 24; 2 -."

end ZoneData

end TransitDwell
